import Licensing.Text.LetterCase
/-!
# Registered identifiers

The identifiers of licenses, and of the exceptions that may be granted on top of a license, in the order of their lists,
and how a text is looked up in them.  They are spelled out in characters so that a fact about a whole list is settled by
evaluating it.
-/
namespace Licensing.Registry

def licenses : List Text := [
  ['0', 'B', 'S', 'D'],
  ['A', 'A', 'L'],
  ['A', 'b', 's', 't', 'y', 'l', 'e', 's'],
  ['A', 'd', 'a', 'C', 'o', 'r', 'e', '-', 'd', 'o', 'c'],
  ['A', 'd', 'o', 'b', 'e', '-', '2', '0', '0', '6'],
  ['A', 'd', 'o', 'b', 'e', '-', 'D', 'i', 's', 'p', 'l', 'a', 'y', '-', 'P', 'o', 's', 't', 'S', 'c', 'r', 'i', 'p', 't'],
  ['A', 'd', 'o', 'b', 'e', '-', 'G', 'l', 'y', 'p', 'h'],
  ['A', 'd', 'o', 'b', 'e', '-', 'U', 't', 'o', 'p', 'i', 'a'],
  ['A', 'D', 'S', 'L'],
  ['A', 'F', 'L', '-', '1', '.', '1'],
  ['A', 'F', 'L', '-', '1', '.', '2'],
  ['A', 'F', 'L', '-', '2', '.', '0'],
  ['A', 'F', 'L', '-', '2', '.', '1'],
  ['A', 'F', 'L', '-', '3', '.', '0'],
  ['A', 'f', 'm', 'p', 'a', 'r', 's', 'e'],
  ['A', 'G', 'P', 'L', '-', '1', '.', '0'],
  ['A', 'G', 'P', 'L', '-', '1', '.', '0', '-', 'o', 'n', 'l', 'y'],
  ['A', 'G', 'P', 'L', '-', '1', '.', '0', '-', 'o', 'r', '-', 'l', 'a', 't', 'e', 'r'],
  ['A', 'G', 'P', 'L', '-', '3', '.', '0'],
  ['A', 'G', 'P', 'L', '-', '3', '.', '0', '-', 'o', 'n', 'l', 'y'],
  ['A', 'G', 'P', 'L', '-', '3', '.', '0', '-', 'o', 'r', '-', 'l', 'a', 't', 'e', 'r'],
  ['A', 'l', 'a', 'd', 'd', 'i', 'n'],
  ['A', 'M', 'D', 'P', 'L', 'P', 'A'],
  ['A', 'M', 'L'],
  ['A', 'M', 'L', '-', 'g', 'l', 's', 'l', 'a', 'n', 'g'],
  ['A', 'M', 'P', 'A', 'S'],
  ['A', 'N', 'T', 'L', 'R', '-', 'P', 'D'],
  ['A', 'N', 'T', 'L', 'R', '-', 'P', 'D', '-', 'f', 'a', 'l', 'l', 'b', 'a', 'c', 'k'],
  ['A', 'p', 'a', 'c', 'h', 'e', '-', '1', '.', '0'],
  ['A', 'p', 'a', 'c', 'h', 'e', '-', '1', '.', '1'],
  ['A', 'p', 'a', 'c', 'h', 'e', '-', '2', '.', '0'],
  ['A', 'P', 'A', 'F', 'M', 'L'],
  ['A', 'P', 'L', '-', '1', '.', '0'],
  ['A', 'p', 'p', '-', 's', '2', 'p'],
  ['A', 'P', 'S', 'L', '-', '1', '.', '0'],
  ['A', 'P', 'S', 'L', '-', '1', '.', '1'],
  ['A', 'P', 'S', 'L', '-', '1', '.', '2'],
  ['A', 'P', 'S', 'L', '-', '2', '.', '0'],
  ['A', 'r', 'p', 'h', 'i', 'c', '-', '1', '9', '9', '9'],
  ['A', 'r', 't', 'i', 's', 't', 'i', 'c', '-', '1', '.', '0'],
  ['A', 'r', 't', 'i', 's', 't', 'i', 'c', '-', '1', '.', '0', '-', 'c', 'l', '8'],
  ['A', 'r', 't', 'i', 's', 't', 'i', 'c', '-', '1', '.', '0', '-', 'P', 'e', 'r', 'l'],
  ['A', 'r', 't', 'i', 's', 't', 'i', 'c', '-', '2', '.', '0'],
  ['A', 'S', 'W', 'F', '-', 'D', 'i', 'g', 'i', 't', 'a', 'l', '-', 'A', 's', 's', 'e', 't', 's', '-', '1', '.', '0'],
  ['A', 'S', 'W', 'F', '-', 'D', 'i', 'g', 'i', 't', 'a', 'l', '-', 'A', 's', 's', 'e', 't', 's', '-', '1', '.', '1'],
  ['B', 'a', 'e', 'k', 'm', 'u', 'k'],
  ['B', 'a', 'h', 'y', 'p', 'h'],
  ['B', 'a', 'r', 'r'],
  ['b', 'c', 'r', 'y', 'p', 't', '-', 'S', 'o', 'l', 'a', 'r', '-', 'D', 'e', 's', 'i', 'g', 'n', 'e', 'r'],
  ['B', 'e', 'e', 'r', 'w', 'a', 'r', 'e'],
  ['B', 'i', 't', 's', 't', 'r', 'e', 'a', 'm', '-', 'C', 'h', 'a', 'r', 't', 'e', 'r'],
  ['B', 'i', 't', 's', 't', 'r', 'e', 'a', 'm', '-', 'V', 'e', 'r', 'a'],
  ['B', 'i', 't', 'T', 'o', 'r', 'r', 'e', 'n', 't', '-', '1', '.', '0'],
  ['B', 'i', 't', 'T', 'o', 'r', 'r', 'e', 'n', 't', '-', '1', '.', '1'],
  ['b', 'l', 'e', 's', 's', 'i', 'n', 'g'],
  ['B', 'l', 'u', 'e', 'O', 'a', 'k', '-', '1', '.', '0', '.', '0'],
  ['B', 'o', 'e', 'h', 'm', '-', 'G', 'C'],
  ['B', 'o', 'r', 'c', 'e', 'u', 'x'],
  ['B', 'r', 'i', 'a', 'n', '-', 'G', 'l', 'a', 'd', 'm', 'a', 'n', '-', '2', '-', 'C', 'l', 'a', 'u', 's', 'e'],
  ['B', 'r', 'i', 'a', 'n', '-', 'G', 'l', 'a', 'd', 'm', 'a', 'n', '-', '3', '-', 'C', 'l', 'a', 'u', 's', 'e'],
  ['B', 'S', 'D', '-', '1', '-', 'C', 'l', 'a', 'u', 's', 'e'],
  ['B', 'S', 'D', '-', '2', '-', 'C', 'l', 'a', 'u', 's', 'e'],
  ['B', 'S', 'D', '-', '2', '-', 'C', 'l', 'a', 'u', 's', 'e', '-', 'D', 'a', 'r', 'w', 'i', 'n'],
  ['B', 'S', 'D', '-', '2', '-', 'C', 'l', 'a', 'u', 's', 'e', '-', 'F', 'r', 'e', 'e', 'B', 'S', 'D'],
  ['B', 'S', 'D', '-', '2', '-', 'C', 'l', 'a', 'u', 's', 'e', '-', 'N', 'e', 't', 'B', 'S', 'D'],
  ['B', 'S', 'D', '-', '2', '-', 'C', 'l', 'a', 'u', 's', 'e', '-', 'P', 'a', 't', 'e', 'n', 't'],
  ['B', 'S', 'D', '-', '2', '-', 'C', 'l', 'a', 'u', 's', 'e', '-', 'V', 'i', 'e', 'w', 's'],
  ['B', 'S', 'D', '-', '3', '-', 'C', 'l', 'a', 'u', 's', 'e'],
  ['B', 'S', 'D', '-', '3', '-', 'C', 'l', 'a', 'u', 's', 'e', '-', 'a', 'c', 'p', 'i', 'c', 'a'],
  ['B', 'S', 'D', '-', '3', '-', 'C', 'l', 'a', 'u', 's', 'e', '-', 'A', 't', 't', 'r', 'i', 'b', 'u', 't', 'i', 'o', 'n'],
  ['B', 'S', 'D', '-', '3', '-', 'C', 'l', 'a', 'u', 's', 'e', '-', 'C', 'l', 'e', 'a', 'r'],
  ['B', 'S', 'D', '-', '3', '-', 'C', 'l', 'a', 'u', 's', 'e', '-', 'f', 'l', 'e', 'x'],
  ['B', 'S', 'D', '-', '3', '-', 'C', 'l', 'a', 'u', 's', 'e', '-', 'H', 'P'],
  ['B', 'S', 'D', '-', '3', '-', 'C', 'l', 'a', 'u', 's', 'e', '-', 'L', 'B', 'N', 'L'],
  ['B', 'S', 'D', '-', '3', '-', 'C', 'l', 'a', 'u', 's', 'e', '-', 'M', 'o', 'd', 'i', 'f', 'i', 'c', 'a', 't', 'i', 'o', 'n'],
  ['B', 'S', 'D', '-', '3', '-', 'C', 'l', 'a', 'u', 's', 'e', '-', 'N', 'o', '-', 'M', 'i', 'l', 'i', 't', 'a', 'r', 'y', '-', 'L', 'i', 'c', 'e', 'n', 's', 'e'],
  ['B', 'S', 'D', '-', '3', '-', 'C', 'l', 'a', 'u', 's', 'e', '-', 'N', 'o', '-', 'N', 'u', 'c', 'l', 'e', 'a', 'r', '-', 'L', 'i', 'c', 'e', 'n', 's', 'e'],
  ['B', 'S', 'D', '-', '3', '-', 'C', 'l', 'a', 'u', 's', 'e', '-', 'N', 'o', '-', 'N', 'u', 'c', 'l', 'e', 'a', 'r', '-', 'L', 'i', 'c', 'e', 'n', 's', 'e', '-', '2', '0', '1', '4'],
  ['B', 'S', 'D', '-', '3', '-', 'C', 'l', 'a', 'u', 's', 'e', '-', 'N', 'o', '-', 'N', 'u', 'c', 'l', 'e', 'a', 'r', '-', 'W', 'a', 'r', 'r', 'a', 'n', 't', 'y'],
  ['B', 'S', 'D', '-', '3', '-', 'C', 'l', 'a', 'u', 's', 'e', '-', 'O', 'p', 'e', 'n', '-', 'M', 'P', 'I'],
  ['B', 'S', 'D', '-', '3', '-', 'C', 'l', 'a', 'u', 's', 'e', '-', 'S', 'u', 'n'],
  ['B', 'S', 'D', '-', '4', '-', 'C', 'l', 'a', 'u', 's', 'e'],
  ['B', 'S', 'D', '-', '4', '-', 'C', 'l', 'a', 'u', 's', 'e', '-', 'S', 'h', 'o', 'r', 't', 'e', 'n', 'e', 'd'],
  ['B', 'S', 'D', '-', '4', '-', 'C', 'l', 'a', 'u', 's', 'e', '-', 'U', 'C'],
  ['B', 'S', 'D', '-', '4', '.', '3', 'R', 'E', 'N', 'O'],
  ['B', 'S', 'D', '-', '4', '.', '3', 'T', 'A', 'H', 'O', 'E'],
  ['B', 'S', 'D', '-', 'A', 'd', 'v', 'e', 'r', 't', 'i', 's', 'i', 'n', 'g', '-', 'A', 'c', 'k', 'n', 'o', 'w', 'l', 'e', 'd', 'g', 'e', 'm', 'e', 'n', 't'],
  ['B', 'S', 'D', '-', 'A', 't', 't', 'r', 'i', 'b', 'u', 't', 'i', 'o', 'n', '-', 'H', 'P', 'N', 'D', '-', 'd', 'i', 's', 'c', 'l', 'a', 'i', 'm', 'e', 'r'],
  ['B', 'S', 'D', '-', 'I', 'n', 'f', 'e', 'r', 'n', 'o', '-', 'N', 'e', 't', 't', 'v', 'e', 'r', 'k'],
  ['B', 'S', 'D', '-', 'P', 'r', 'o', 't', 'e', 'c', 't', 'i', 'o', 'n'],
  ['B', 'S', 'D', '-', 'S', 'o', 'u', 'r', 'c', 'e', '-', 'b', 'e', 'g', 'i', 'n', 'n', 'i', 'n', 'g', '-', 'f', 'i', 'l', 'e'],
  ['B', 'S', 'D', '-', 'S', 'o', 'u', 'r', 'c', 'e', '-', 'C', 'o', 'd', 'e'],
  ['B', 'S', 'D', '-', 'S', 'y', 's', 't', 'e', 'm', 'i', 'c', 's'],
  ['B', 'S', 'D', '-', 'S', 'y', 's', 't', 'e', 'm', 'i', 'c', 's', '-', 'W', '3', 'W', 'o', 'r', 'k', 's'],
  ['B', 'S', 'L', '-', '1', '.', '0'],
  ['B', 'U', 'S', 'L', '-', '1', '.', '1'],
  ['b', 'z', 'i', 'p', '2', '-', '1', '.', '0', '.', '5'],
  ['b', 'z', 'i', 'p', '2', '-', '1', '.', '0', '.', '6'],
  ['C', '-', 'U', 'D', 'A', '-', '1', '.', '0'],
  ['C', 'A', 'L', '-', '1', '.', '0'],
  ['C', 'A', 'L', '-', '1', '.', '0', '-', 'C', 'o', 'm', 'b', 'i', 'n', 'e', 'd', '-', 'W', 'o', 'r', 'k', '-', 'E', 'x', 'c', 'e', 'p', 't', 'i', 'o', 'n'],
  ['C', 'a', 'l', 'd', 'e', 'r', 'a'],
  ['C', 'a', 'l', 'd', 'e', 'r', 'a', '-', 'n', 'o', '-', 'p', 'r', 'e', 'a', 'm', 'b', 'l', 'e'],
  ['C', 'A', 'T', 'O', 'S', 'L', '-', '1', '.', '1'],
  ['C', 'C', '-', 'B', 'Y', '-', '1', '.', '0'],
  ['C', 'C', '-', 'B', 'Y', '-', '2', '.', '0'],
  ['C', 'C', '-', 'B', 'Y', '-', '2', '.', '5'],
  ['C', 'C', '-', 'B', 'Y', '-', '2', '.', '5', '-', 'A', 'U'],
  ['C', 'C', '-', 'B', 'Y', '-', '3', '.', '0'],
  ['C', 'C', '-', 'B', 'Y', '-', '3', '.', '0', '-', 'A', 'T'],
  ['C', 'C', '-', 'B', 'Y', '-', '3', '.', '0', '-', 'A', 'U'],
  ['C', 'C', '-', 'B', 'Y', '-', '3', '.', '0', '-', 'D', 'E'],
  ['C', 'C', '-', 'B', 'Y', '-', '3', '.', '0', '-', 'I', 'G', 'O'],
  ['C', 'C', '-', 'B', 'Y', '-', '3', '.', '0', '-', 'N', 'L'],
  ['C', 'C', '-', 'B', 'Y', '-', '3', '.', '0', '-', 'U', 'S'],
  ['C', 'C', '-', 'B', 'Y', '-', '4', '.', '0'],
  ['C', 'C', '-', 'B', 'Y', '-', 'N', 'C', '-', '1', '.', '0'],
  ['C', 'C', '-', 'B', 'Y', '-', 'N', 'C', '-', '2', '.', '0'],
  ['C', 'C', '-', 'B', 'Y', '-', 'N', 'C', '-', '2', '.', '5'],
  ['C', 'C', '-', 'B', 'Y', '-', 'N', 'C', '-', '3', '.', '0'],
  ['C', 'C', '-', 'B', 'Y', '-', 'N', 'C', '-', '3', '.', '0', '-', 'D', 'E'],
  ['C', 'C', '-', 'B', 'Y', '-', 'N', 'C', '-', '4', '.', '0'],
  ['C', 'C', '-', 'B', 'Y', '-', 'N', 'C', '-', 'N', 'D', '-', '1', '.', '0'],
  ['C', 'C', '-', 'B', 'Y', '-', 'N', 'C', '-', 'N', 'D', '-', '2', '.', '0'],
  ['C', 'C', '-', 'B', 'Y', '-', 'N', 'C', '-', 'N', 'D', '-', '2', '.', '5'],
  ['C', 'C', '-', 'B', 'Y', '-', 'N', 'C', '-', 'N', 'D', '-', '3', '.', '0'],
  ['C', 'C', '-', 'B', 'Y', '-', 'N', 'C', '-', 'N', 'D', '-', '3', '.', '0', '-', 'D', 'E'],
  ['C', 'C', '-', 'B', 'Y', '-', 'N', 'C', '-', 'N', 'D', '-', '3', '.', '0', '-', 'I', 'G', 'O'],
  ['C', 'C', '-', 'B', 'Y', '-', 'N', 'C', '-', 'N', 'D', '-', '4', '.', '0'],
  ['C', 'C', '-', 'B', 'Y', '-', 'N', 'C', '-', 'S', 'A', '-', '1', '.', '0'],
  ['C', 'C', '-', 'B', 'Y', '-', 'N', 'C', '-', 'S', 'A', '-', '2', '.', '0'],
  ['C', 'C', '-', 'B', 'Y', '-', 'N', 'C', '-', 'S', 'A', '-', '2', '.', '0', '-', 'D', 'E'],
  ['C', 'C', '-', 'B', 'Y', '-', 'N', 'C', '-', 'S', 'A', '-', '2', '.', '0', '-', 'F', 'R'],
  ['C', 'C', '-', 'B', 'Y', '-', 'N', 'C', '-', 'S', 'A', '-', '2', '.', '0', '-', 'U', 'K'],
  ['C', 'C', '-', 'B', 'Y', '-', 'N', 'C', '-', 'S', 'A', '-', '2', '.', '5'],
  ['C', 'C', '-', 'B', 'Y', '-', 'N', 'C', '-', 'S', 'A', '-', '3', '.', '0'],
  ['C', 'C', '-', 'B', 'Y', '-', 'N', 'C', '-', 'S', 'A', '-', '3', '.', '0', '-', 'D', 'E'],
  ['C', 'C', '-', 'B', 'Y', '-', 'N', 'C', '-', 'S', 'A', '-', '3', '.', '0', '-', 'I', 'G', 'O'],
  ['C', 'C', '-', 'B', 'Y', '-', 'N', 'C', '-', 'S', 'A', '-', '4', '.', '0'],
  ['C', 'C', '-', 'B', 'Y', '-', 'N', 'D', '-', '1', '.', '0'],
  ['C', 'C', '-', 'B', 'Y', '-', 'N', 'D', '-', '2', '.', '0'],
  ['C', 'C', '-', 'B', 'Y', '-', 'N', 'D', '-', '2', '.', '5'],
  ['C', 'C', '-', 'B', 'Y', '-', 'N', 'D', '-', '3', '.', '0'],
  ['C', 'C', '-', 'B', 'Y', '-', 'N', 'D', '-', '3', '.', '0', '-', 'D', 'E'],
  ['C', 'C', '-', 'B', 'Y', '-', 'N', 'D', '-', '4', '.', '0'],
  ['C', 'C', '-', 'B', 'Y', '-', 'S', 'A', '-', '1', '.', '0'],
  ['C', 'C', '-', 'B', 'Y', '-', 'S', 'A', '-', '2', '.', '0'],
  ['C', 'C', '-', 'B', 'Y', '-', 'S', 'A', '-', '2', '.', '0', '-', 'U', 'K'],
  ['C', 'C', '-', 'B', 'Y', '-', 'S', 'A', '-', '2', '.', '1', '-', 'J', 'P'],
  ['C', 'C', '-', 'B', 'Y', '-', 'S', 'A', '-', '2', '.', '5'],
  ['C', 'C', '-', 'B', 'Y', '-', 'S', 'A', '-', '3', '.', '0'],
  ['C', 'C', '-', 'B', 'Y', '-', 'S', 'A', '-', '3', '.', '0', '-', 'A', 'T'],
  ['C', 'C', '-', 'B', 'Y', '-', 'S', 'A', '-', '3', '.', '0', '-', 'D', 'E'],
  ['C', 'C', '-', 'B', 'Y', '-', 'S', 'A', '-', '3', '.', '0', '-', 'I', 'G', 'O'],
  ['C', 'C', '-', 'B', 'Y', '-', 'S', 'A', '-', '4', '.', '0'],
  ['C', 'C', '-', 'P', 'D', 'D', 'C'],
  ['C', 'C', '0', '-', '1', '.', '0'],
  ['C', 'D', 'D', 'L', '-', '1', '.', '0'],
  ['C', 'D', 'D', 'L', '-', '1', '.', '1'],
  ['C', 'D', 'L', '-', '1', '.', '0'],
  ['C', 'D', 'L', 'A', '-', 'P', 'e', 'r', 'm', 'i', 's', 's', 'i', 'v', 'e', '-', '1', '.', '0'],
  ['C', 'D', 'L', 'A', '-', 'P', 'e', 'r', 'm', 'i', 's', 's', 'i', 'v', 'e', '-', '2', '.', '0'],
  ['C', 'D', 'L', 'A', '-', 'S', 'h', 'a', 'r', 'i', 'n', 'g', '-', '1', '.', '0'],
  ['C', 'E', 'C', 'I', 'L', 'L', '-', '1', '.', '0'],
  ['C', 'E', 'C', 'I', 'L', 'L', '-', '1', '.', '1'],
  ['C', 'E', 'C', 'I', 'L', 'L', '-', '2', '.', '0'],
  ['C', 'E', 'C', 'I', 'L', 'L', '-', '2', '.', '1'],
  ['C', 'E', 'C', 'I', 'L', 'L', '-', 'B'],
  ['C', 'E', 'C', 'I', 'L', 'L', '-', 'C'],
  ['C', 'E', 'R', 'N', '-', 'O', 'H', 'L', '-', '1', '.', '1'],
  ['C', 'E', 'R', 'N', '-', 'O', 'H', 'L', '-', '1', '.', '2'],
  ['C', 'E', 'R', 'N', '-', 'O', 'H', 'L', '-', 'P', '-', '2', '.', '0'],
  ['C', 'E', 'R', 'N', '-', 'O', 'H', 'L', '-', 'S', '-', '2', '.', '0'],
  ['C', 'E', 'R', 'N', '-', 'O', 'H', 'L', '-', 'W', '-', '2', '.', '0'],
  ['C', 'F', 'I', 'T', 'S', 'I', 'O'],
  ['c', 'h', 'e', 'c', 'k', '-', 'c', 'v', 's'],
  ['c', 'h', 'e', 'c', 'k', 'm', 'k'],
  ['C', 'l', 'A', 'r', 't', 'i', 's', 't', 'i', 'c'],
  ['C', 'l', 'i', 'p', 's'],
  ['C', 'M', 'U', '-', 'M', 'a', 'c', 'h'],
  ['C', 'M', 'U', '-', 'M', 'a', 'c', 'h', '-', 'n', 'o', 'd', 'o', 'c'],
  ['C', 'N', 'R', 'I', '-', 'J', 'y', 't', 'h', 'o', 'n'],
  ['C', 'N', 'R', 'I', '-', 'P', 'y', 't', 'h', 'o', 'n'],
  ['C', 'N', 'R', 'I', '-', 'P', 'y', 't', 'h', 'o', 'n', '-', 'G', 'P', 'L', '-', 'C', 'o', 'm', 'p', 'a', 't', 'i', 'b', 'l', 'e'],
  ['C', 'O', 'I', 'L', '-', '1', '.', '0'],
  ['C', 'o', 'm', 'm', 'u', 'n', 'i', 't', 'y', '-', 'S', 'p', 'e', 'c', '-', '1', '.', '0'],
  ['C', 'o', 'n', 'd', 'o', 'r', '-', '1', '.', '1'],
  ['c', 'o', 'p', 'y', 'l', 'e', 'f', 't', '-', 'n', 'e', 'x', 't', '-', '0', '.', '3', '.', '0'],
  ['c', 'o', 'p', 'y', 'l', 'e', 'f', 't', '-', 'n', 'e', 'x', 't', '-', '0', '.', '3', '.', '1'],
  ['C', 'o', 'r', 'n', 'e', 'l', 'l', '-', 'L', 'o', 's', 's', 'l', 'e', 's', 's', '-', 'J', 'P', 'E', 'G'],
  ['C', 'P', 'A', 'L', '-', '1', '.', '0'],
  ['C', 'P', 'L', '-', '1', '.', '0'],
  ['C', 'P', 'O', 'L', '-', '1', '.', '0', '2'],
  ['C', 'r', 'o', 'n', 'y', 'x'],
  ['C', 'r', 'o', 's', 's', 'w', 'o', 'r', 'd'],
  ['C', 'r', 'y', 's', 't', 'a', 'l', 'S', 't', 'a', 'c', 'k', 'e', 'r'],
  ['C', 'U', 'A', '-', 'O', 'P', 'L', '-', '1', '.', '0'],
  ['C', 'u', 'b', 'e'],
  ['c', 'u', 'r', 'l'],
  ['D', '-', 'F', 'S', 'L', '-', '1', '.', '0'],
  ['D', 'E', 'C', '-', '3', '-', 'C', 'l', 'a', 'u', 's', 'e'],
  ['d', 'i', 'f', 'f', 'm', 'a', 'r', 'k'],
  ['D', 'L', '-', 'D', 'E', '-', 'B', 'Y', '-', '2', '.', '0'],
  ['D', 'L', '-', 'D', 'E', '-', 'Z', 'E', 'R', 'O', '-', '2', '.', '0'],
  ['D', 'O', 'C'],
  ['D', 'o', 't', 's', 'e', 'q', 'n'],
  ['D', 'R', 'L', '-', '1', '.', '0'],
  ['D', 'R', 'L', '-', '1', '.', '1'],
  ['D', 'S', 'D', 'P'],
  ['d', 't', 'o', 'a'],
  ['d', 'v', 'i', 'p', 'd', 'f', 'm'],
  ['E', 'C', 'L', '-', '1', '.', '0'],
  ['E', 'C', 'L', '-', '2', '.', '0'],
  ['e', 'C', 'o', 's', '-', '2', '.', '0'],
  ['E', 'F', 'L', '-', '1', '.', '0'],
  ['E', 'F', 'L', '-', '2', '.', '0'],
  ['e', 'G', 'e', 'n', 'i', 'x'],
  ['E', 'l', 'a', 's', 't', 'i', 'c', '-', '2', '.', '0'],
  ['E', 'n', 't', 'e', 's', 's', 'a'],
  ['E', 'P', 'I', 'C', 'S'],
  ['E', 'P', 'L', '-', '1', '.', '0'],
  ['E', 'P', 'L', '-', '2', '.', '0'],
  ['E', 'r', 'l', 'P', 'L', '-', '1', '.', '1'],
  ['e', 't', 'a', 'l', 'a', 'b', '-', '2', '.', '0'],
  ['E', 'U', 'D', 'a', 't', 'a', 'g', 'r', 'i', 'd'],
  ['E', 'U', 'P', 'L', '-', '1', '.', '0'],
  ['E', 'U', 'P', 'L', '-', '1', '.', '1'],
  ['E', 'U', 'P', 'L', '-', '1', '.', '2'],
  ['E', 'u', 'r', 'o', 's', 'y', 'm'],
  ['F', 'a', 'i', 'r'],
  ['F', 'B', 'M'],
  ['F', 'D', 'K', '-', 'A', 'A', 'C'],
  ['F', 'e', 'r', 'g', 'u', 's', 'o', 'n', '-', 'T', 'w', 'o', 'f', 'i', 's', 'h'],
  ['F', 'r', 'a', 'm', 'e', 'w', 'o', 'r', 'x', '-', '1', '.', '0'],
  ['F', 'r', 'e', 'e', 'B', 'S', 'D', '-', 'D', 'O', 'C'],
  ['F', 'r', 'e', 'e', 'I', 'm', 'a', 'g', 'e'],
  ['F', 'S', 'F', 'A', 'P'],
  ['F', 'S', 'F', 'A', 'P', '-', 'n', 'o', '-', 'w', 'a', 'r', 'r', 'a', 'n', 't', 'y', '-', 'd', 'i', 's', 'c', 'l', 'a', 'i', 'm', 'e', 'r'],
  ['F', 'S', 'F', 'U', 'L'],
  ['F', 'S', 'F', 'U', 'L', 'L', 'R'],
  ['F', 'S', 'F', 'U', 'L', 'L', 'R', 'W', 'D'],
  ['F', 'T', 'L'],
  ['F', 'u', 'r', 'u', 's', 'e', 't', 'h'],
  ['f', 'w', 'l', 'w'],
  ['G', 'C', 'R', '-', 'd', 'o', 'c', 's'],
  ['G', 'D'],
  ['G', 'F', 'D', 'L', '-', '1', '.', '1'],
  ['G', 'F', 'D', 'L', '-', '1', '.', '1', '-', 'i', 'n', 'v', 'a', 'r', 'i', 'a', 'n', 't', 's', '-', 'o', 'n', 'l', 'y'],
  ['G', 'F', 'D', 'L', '-', '1', '.', '1', '-', 'i', 'n', 'v', 'a', 'r', 'i', 'a', 'n', 't', 's', '-', 'o', 'r', '-', 'l', 'a', 't', 'e', 'r'],
  ['G', 'F', 'D', 'L', '-', '1', '.', '1', '-', 'n', 'o', '-', 'i', 'n', 'v', 'a', 'r', 'i', 'a', 'n', 't', 's', '-', 'o', 'n', 'l', 'y'],
  ['G', 'F', 'D', 'L', '-', '1', '.', '1', '-', 'n', 'o', '-', 'i', 'n', 'v', 'a', 'r', 'i', 'a', 'n', 't', 's', '-', 'o', 'r', '-', 'l', 'a', 't', 'e', 'r'],
  ['G', 'F', 'D', 'L', '-', '1', '.', '1', '-', 'o', 'n', 'l', 'y'],
  ['G', 'F', 'D', 'L', '-', '1', '.', '1', '-', 'o', 'r', '-', 'l', 'a', 't', 'e', 'r'],
  ['G', 'F', 'D', 'L', '-', '1', '.', '2'],
  ['G', 'F', 'D', 'L', '-', '1', '.', '2', '-', 'i', 'n', 'v', 'a', 'r', 'i', 'a', 'n', 't', 's', '-', 'o', 'n', 'l', 'y'],
  ['G', 'F', 'D', 'L', '-', '1', '.', '2', '-', 'i', 'n', 'v', 'a', 'r', 'i', 'a', 'n', 't', 's', '-', 'o', 'r', '-', 'l', 'a', 't', 'e', 'r'],
  ['G', 'F', 'D', 'L', '-', '1', '.', '2', '-', 'n', 'o', '-', 'i', 'n', 'v', 'a', 'r', 'i', 'a', 'n', 't', 's', '-', 'o', 'n', 'l', 'y'],
  ['G', 'F', 'D', 'L', '-', '1', '.', '2', '-', 'n', 'o', '-', 'i', 'n', 'v', 'a', 'r', 'i', 'a', 'n', 't', 's', '-', 'o', 'r', '-', 'l', 'a', 't', 'e', 'r'],
  ['G', 'F', 'D', 'L', '-', '1', '.', '2', '-', 'o', 'n', 'l', 'y'],
  ['G', 'F', 'D', 'L', '-', '1', '.', '2', '-', 'o', 'r', '-', 'l', 'a', 't', 'e', 'r'],
  ['G', 'F', 'D', 'L', '-', '1', '.', '3'],
  ['G', 'F', 'D', 'L', '-', '1', '.', '3', '-', 'i', 'n', 'v', 'a', 'r', 'i', 'a', 'n', 't', 's', '-', 'o', 'n', 'l', 'y'],
  ['G', 'F', 'D', 'L', '-', '1', '.', '3', '-', 'i', 'n', 'v', 'a', 'r', 'i', 'a', 'n', 't', 's', '-', 'o', 'r', '-', 'l', 'a', 't', 'e', 'r'],
  ['G', 'F', 'D', 'L', '-', '1', '.', '3', '-', 'n', 'o', '-', 'i', 'n', 'v', 'a', 'r', 'i', 'a', 'n', 't', 's', '-', 'o', 'n', 'l', 'y'],
  ['G', 'F', 'D', 'L', '-', '1', '.', '3', '-', 'n', 'o', '-', 'i', 'n', 'v', 'a', 'r', 'i', 'a', 'n', 't', 's', '-', 'o', 'r', '-', 'l', 'a', 't', 'e', 'r'],
  ['G', 'F', 'D', 'L', '-', '1', '.', '3', '-', 'o', 'n', 'l', 'y'],
  ['G', 'F', 'D', 'L', '-', '1', '.', '3', '-', 'o', 'r', '-', 'l', 'a', 't', 'e', 'r'],
  ['G', 'i', 'f', 't', 'w', 'a', 'r', 'e'],
  ['G', 'L', '2', 'P', 'S'],
  ['G', 'l', 'i', 'd', 'e'],
  ['G', 'l', 'u', 'l', 'x', 'e'],
  ['G', 'L', 'W', 'T', 'P', 'L'],
  ['g', 'n', 'u', 'p', 'l', 'o', 't'],
  ['G', 'P', 'L', '-', '1', '.', '0'],
  ['G', 'P', 'L', '-', '1', '.', '0', '+'],
  ['G', 'P', 'L', '-', '1', '.', '0', '-', 'o', 'n', 'l', 'y'],
  ['G', 'P', 'L', '-', '1', '.', '0', '-', 'o', 'r', '-', 'l', 'a', 't', 'e', 'r'],
  ['G', 'P', 'L', '-', '2', '.', '0'],
  ['G', 'P', 'L', '-', '2', '.', '0', '+'],
  ['G', 'P', 'L', '-', '2', '.', '0', '-', 'o', 'n', 'l', 'y'],
  ['G', 'P', 'L', '-', '2', '.', '0', '-', 'o', 'r', '-', 'l', 'a', 't', 'e', 'r'],
  ['G', 'P', 'L', '-', '2', '.', '0', '-', 'w', 'i', 't', 'h', '-', 'a', 'u', 't', 'o', 'c', 'o', 'n', 'f', '-', 'e', 'x', 'c', 'e', 'p', 't', 'i', 'o', 'n'],
  ['G', 'P', 'L', '-', '2', '.', '0', '-', 'w', 'i', 't', 'h', '-', 'b', 'i', 's', 'o', 'n', '-', 'e', 'x', 'c', 'e', 'p', 't', 'i', 'o', 'n'],
  ['G', 'P', 'L', '-', '2', '.', '0', '-', 'w', 'i', 't', 'h', '-', 'c', 'l', 'a', 's', 's', 'p', 'a', 't', 'h', '-', 'e', 'x', 'c', 'e', 'p', 't', 'i', 'o', 'n'],
  ['G', 'P', 'L', '-', '2', '.', '0', '-', 'w', 'i', 't', 'h', '-', 'f', 'o', 'n', 't', '-', 'e', 'x', 'c', 'e', 'p', 't', 'i', 'o', 'n'],
  ['G', 'P', 'L', '-', '2', '.', '0', '-', 'w', 'i', 't', 'h', '-', 'G', 'C', 'C', '-', 'e', 'x', 'c', 'e', 'p', 't', 'i', 'o', 'n'],
  ['G', 'P', 'L', '-', '3', '.', '0'],
  ['G', 'P', 'L', '-', '3', '.', '0', '+'],
  ['G', 'P', 'L', '-', '3', '.', '0', '-', 'o', 'n', 'l', 'y'],
  ['G', 'P', 'L', '-', '3', '.', '0', '-', 'o', 'r', '-', 'l', 'a', 't', 'e', 'r'],
  ['G', 'P', 'L', '-', '3', '.', '0', '-', 'w', 'i', 't', 'h', '-', 'a', 'u', 't', 'o', 'c', 'o', 'n', 'f', '-', 'e', 'x', 'c', 'e', 'p', 't', 'i', 'o', 'n'],
  ['G', 'P', 'L', '-', '3', '.', '0', '-', 'w', 'i', 't', 'h', '-', 'G', 'C', 'C', '-', 'e', 'x', 'c', 'e', 'p', 't', 'i', 'o', 'n'],
  ['G', 'r', 'a', 'p', 'h', 'i', 'c', 's', '-', 'G', 'e', 'm', 's'],
  ['g', 'S', 'O', 'A', 'P', '-', '1', '.', '3', 'b'],
  ['g', 't', 'k', 'b', 'o', 'o', 'k'],
  ['H', 'a', 's', 'k', 'e', 'l', 'l', 'R', 'e', 'p', 'o', 'r', 't'],
  ['h', 'd', 'p', 'a', 'r', 'm'],
  ['H', 'i', 'p', 'p', 'o', 'c', 'r', 'a', 't', 'i', 'c', '-', '2', '.', '1'],
  ['H', 'P', '-', '1', '9', '8', '6'],
  ['H', 'P', '-', '1', '9', '8', '9'],
  ['H', 'P', 'N', 'D'],
  ['H', 'P', 'N', 'D', '-', 'D', 'E', 'C'],
  ['H', 'P', 'N', 'D', '-', 'd', 'o', 'c'],
  ['H', 'P', 'N', 'D', '-', 'd', 'o', 'c', '-', 's', 'e', 'l', 'l'],
  ['H', 'P', 'N', 'D', '-', 'e', 'x', 'p', 'o', 'r', 't', '-', 'U', 'S'],
  ['H', 'P', 'N', 'D', '-', 'e', 'x', 'p', 'o', 'r', 't', '-', 'U', 'S', '-', 'm', 'o', 'd', 'i', 'f', 'y'],
  ['H', 'P', 'N', 'D', '-', 'F', 'e', 'n', 'n', 'e', 'b', 'e', 'r', 'g', '-', 'L', 'i', 'v', 'i', 'n', 'g', 's', 't', 'o', 'n'],
  ['H', 'P', 'N', 'D', '-', 'I', 'N', 'R', 'I', 'A', '-', 'I', 'M', 'A', 'G'],
  ['H', 'P', 'N', 'D', '-', 'K', 'e', 'v', 'l', 'i', 'n', '-', 'H', 'e', 'n', 'n', 'e', 'y'],
  ['H', 'P', 'N', 'D', '-', 'M', 'a', 'r', 'k', 'u', 's', '-', 'K', 'u', 'h', 'n'],
  ['H', 'P', 'N', 'D', '-', 'M', 'I', 'T', '-', 'd', 'i', 's', 'c', 'l', 'a', 'i', 'm', 'e', 'r'],
  ['H', 'P', 'N', 'D', '-', 'P', 'b', 'm', 'p', 'l', 'u', 's'],
  ['H', 'P', 'N', 'D', '-', 's', 'e', 'l', 'l', '-', 'M', 'I', 'T', '-', 'd', 'i', 's', 'c', 'l', 'a', 'i', 'm', 'e', 'r', '-', 'x', 's', 'e', 'r', 'v', 'e', 'r'],
  ['H', 'P', 'N', 'D', '-', 's', 'e', 'l', 'l', '-', 'r', 'e', 'g', 'e', 'x', 'p', 'r'],
  ['H', 'P', 'N', 'D', '-', 's', 'e', 'l', 'l', '-', 'v', 'a', 'r', 'i', 'a', 'n', 't'],
  ['H', 'P', 'N', 'D', '-', 's', 'e', 'l', 'l', '-', 'v', 'a', 'r', 'i', 'a', 'n', 't', '-', 'M', 'I', 'T', '-', 'd', 'i', 's', 'c', 'l', 'a', 'i', 'm', 'e', 'r'],
  ['H', 'P', 'N', 'D', '-', 'U', 'C'],
  ['H', 'T', 'M', 'L', 'T', 'I', 'D', 'Y'],
  ['I', 'B', 'M', '-', 'p', 'i', 'b', 's'],
  ['I', 'C', 'U'],
  ['I', 'E', 'C', '-', 'C', 'o', 'd', 'e', '-', 'C', 'o', 'm', 'p', 'o', 'n', 'e', 'n', 't', 's', '-', 'E', 'U', 'L', 'A'],
  ['I', 'J', 'G'],
  ['I', 'J', 'G', '-', 's', 'h', 'o', 'r', 't'],
  ['I', 'm', 'a', 'g', 'e', 'M', 'a', 'g', 'i', 'c', 'k'],
  ['i', 'M', 'a', 't', 'i', 'x'],
  ['I', 'm', 'l', 'i', 'b', '2'],
  ['I', 'n', 'f', 'o', '-', 'Z', 'I', 'P'],
  ['I', 'n', 'n', 'e', 'r', '-', 'N', 'e', 't', '-', '2', '.', '0'],
  ['I', 'n', 't', 'e', 'l'],
  ['I', 'n', 't', 'e', 'l', '-', 'A', 'C', 'P', 'I'],
  ['I', 'n', 't', 'e', 'r', 'b', 'a', 's', 'e', '-', '1', '.', '0'],
  ['I', 'P', 'A'],
  ['I', 'P', 'L', '-', '1', '.', '0'],
  ['I', 'S', 'C'],
  ['I', 'S', 'C', '-', 'V', 'e', 'i', 'l', 'l', 'a', 'r', 'd'],
  ['J', 'a', 'm'],
  ['J', 'a', 's', 'P', 'e', 'r', '-', '2', '.', '0'],
  ['J', 'P', 'L', '-', 'i', 'm', 'a', 'g', 'e'],
  ['J', 'P', 'N', 'I', 'C'],
  ['J', 'S', 'O', 'N'],
  ['K', 'a', 's', 't', 'r', 'u', 'p'],
  ['K', 'a', 'z', 'l', 'i', 'b'],
  ['K', 'n', 'u', 't', 'h', '-', 'C', 'T', 'A', 'N'],
  ['L', 'A', 'L', '-', '1', '.', '2'],
  ['L', 'A', 'L', '-', '1', '.', '3'],
  ['L', 'a', 't', 'e', 'x', '2', 'e'],
  ['L', 'a', 't', 'e', 'x', '2', 'e', '-', 't', 'r', 'a', 'n', 's', 'l', 'a', 't', 'e', 'd', '-', 'n', 'o', 't', 'i', 'c', 'e'],
  ['L', 'e', 'p', 't', 'o', 'n', 'i', 'c', 'a'],
  ['L', 'G', 'P', 'L', '-', '2', '.', '0'],
  ['L', 'G', 'P', 'L', '-', '2', '.', '0', '+'],
  ['L', 'G', 'P', 'L', '-', '2', '.', '0', '-', 'o', 'n', 'l', 'y'],
  ['L', 'G', 'P', 'L', '-', '2', '.', '0', '-', 'o', 'r', '-', 'l', 'a', 't', 'e', 'r'],
  ['L', 'G', 'P', 'L', '-', '2', '.', '1'],
  ['L', 'G', 'P', 'L', '-', '2', '.', '1', '+'],
  ['L', 'G', 'P', 'L', '-', '2', '.', '1', '-', 'o', 'n', 'l', 'y'],
  ['L', 'G', 'P', 'L', '-', '2', '.', '1', '-', 'o', 'r', '-', 'l', 'a', 't', 'e', 'r'],
  ['L', 'G', 'P', 'L', '-', '3', '.', '0'],
  ['L', 'G', 'P', 'L', '-', '3', '.', '0', '+'],
  ['L', 'G', 'P', 'L', '-', '3', '.', '0', '-', 'o', 'n', 'l', 'y'],
  ['L', 'G', 'P', 'L', '-', '3', '.', '0', '-', 'o', 'r', '-', 'l', 'a', 't', 'e', 'r'],
  ['L', 'G', 'P', 'L', 'L', 'R'],
  ['L', 'i', 'b', 'p', 'n', 'g'],
  ['l', 'i', 'b', 'p', 'n', 'g', '-', '2', '.', '0'],
  ['l', 'i', 'b', 's', 'e', 'l', 'i', 'n', 'u', 'x', '-', '1', '.', '0'],
  ['l', 'i', 'b', 't', 'i', 'f', 'f'],
  ['l', 'i', 'b', 'u', 't', 'i', 'l', '-', 'D', 'a', 'v', 'i', 'd', '-', 'N', 'u', 'g', 'e', 'n', 't'],
  ['L', 'i', 'L', 'i', 'Q', '-', 'P', '-', '1', '.', '1'],
  ['L', 'i', 'L', 'i', 'Q', '-', 'R', '-', '1', '.', '1'],
  ['L', 'i', 'L', 'i', 'Q', '-', 'R', 'p', 'l', 'u', 's', '-', '1', '.', '1'],
  ['L', 'i', 'n', 'u', 'x', '-', 'm', 'a', 'n', '-', 'p', 'a', 'g', 'e', 's', '-', '1', '-', 'p', 'a', 'r', 'a'],
  ['L', 'i', 'n', 'u', 'x', '-', 'm', 'a', 'n', '-', 'p', 'a', 'g', 'e', 's', '-', 'c', 'o', 'p', 'y', 'l', 'e', 'f', 't'],
  ['L', 'i', 'n', 'u', 'x', '-', 'm', 'a', 'n', '-', 'p', 'a', 'g', 'e', 's', '-', 'c', 'o', 'p', 'y', 'l', 'e', 'f', 't', '-', '2', '-', 'p', 'a', 'r', 'a'],
  ['L', 'i', 'n', 'u', 'x', '-', 'm', 'a', 'n', '-', 'p', 'a', 'g', 'e', 's', '-', 'c', 'o', 'p', 'y', 'l', 'e', 'f', 't', '-', 'v', 'a', 'r'],
  ['L', 'i', 'n', 'u', 'x', '-', 'O', 'p', 'e', 'n', 'I', 'B'],
  ['L', 'O', 'O', 'P'],
  ['L', 'P', 'D', '-', 'd', 'o', 'c', 'u', 'm', 'e', 'n', 't'],
  ['L', 'P', 'L', '-', '1', '.', '0'],
  ['L', 'P', 'L', '-', '1', '.', '0', '2'],
  ['L', 'P', 'P', 'L', '-', '1', '.', '0'],
  ['L', 'P', 'P', 'L', '-', '1', '.', '1'],
  ['L', 'P', 'P', 'L', '-', '1', '.', '2'],
  ['L', 'P', 'P', 'L', '-', '1', '.', '3', 'a'],
  ['L', 'P', 'P', 'L', '-', '1', '.', '3', 'c'],
  ['l', 's', 'o', 'f'],
  ['L', 'u', 'c', 'i', 'd', 'a', '-', 'B', 'i', 't', 'm', 'a', 'p', '-', 'F', 'o', 'n', 't', 's'],
  ['L', 'Z', 'M', 'A', '-', 'S', 'D', 'K', '-', '9', '.', '1', '1', '-', 't', 'o', '-', '9', '.', '2', '0'],
  ['L', 'Z', 'M', 'A', '-', 'S', 'D', 'K', '-', '9', '.', '2', '2'],
  ['m', 'a', 'g', 'a', 'z'],
  ['m', 'a', 'i', 'l', 'p', 'r', 'i', 'o'],
  ['M', 'a', 'k', 'e', 'I', 'n', 'd', 'e', 'x'],
  ['M', 'a', 'r', 't', 'i', 'n', '-', 'B', 'i', 'r', 'g', 'm', 'e', 'i', 'e', 'r'],
  ['M', 'c', 'P', 'h', 'e', 'e', '-', 's', 'l', 'i', 'd', 'e', 's', 'h', 'o', 'w'],
  ['m', 'e', 't', 'a', 'm', 'a', 'i', 'l'],
  ['M', 'i', 'n', 'p', 'a', 'c', 'k'],
  ['M', 'i', 'r', 'O', 'S'],
  ['M', 'I', 'T'],
  ['M', 'I', 'T', '-', '0'],
  ['M', 'I', 'T', '-', 'a', 'd', 'v', 'e', 'r', 't', 'i', 's', 'i', 'n', 'g'],
  ['M', 'I', 'T', '-', 'C', 'M', 'U'],
  ['M', 'I', 'T', '-', 'e', 'n', 'n', 'a'],
  ['M', 'I', 'T', '-', 'f', 'e', 'h'],
  ['M', 'I', 'T', '-', 'F', 'e', 's', 't', 'i', 'v', 'a', 'l'],
  ['M', 'I', 'T', '-', 'M', 'o', 'd', 'e', 'r', 'n', '-', 'V', 'a', 'r', 'i', 'a', 'n', 't'],
  ['M', 'I', 'T', '-', 'o', 'p', 'e', 'n', '-', 'g', 'r', 'o', 'u', 'p'],
  ['M', 'I', 'T', '-', 't', 'e', 's', 't', 'r', 'e', 'g', 'e', 'x'],
  ['M', 'I', 'T', '-', 'W', 'u'],
  ['M', 'I', 'T', 'N', 'F', 'A'],
  ['M', 'M', 'I', 'X', 'w', 'a', 'r', 'e'],
  ['M', 'o', 't', 'o', 's', 'o', 't', 'o'],
  ['M', 'P', 'E', 'G', '-', 'S', 'S', 'G'],
  ['m', 'p', 'i', '-', 'p', 'e', 'r', 'm', 'i', 's', 's', 'i', 'v', 'e'],
  ['m', 'p', 'i', 'c', 'h', '2'],
  ['M', 'P', 'L', '-', '1', '.', '0'],
  ['M', 'P', 'L', '-', '1', '.', '1'],
  ['M', 'P', 'L', '-', '2', '.', '0'],
  ['M', 'P', 'L', '-', '2', '.', '0', '-', 'n', 'o', '-', 'c', 'o', 'p', 'y', 'l', 'e', 'f', 't', '-', 'e', 'x', 'c', 'e', 'p', 't', 'i', 'o', 'n'],
  ['m', 'p', 'l', 'u', 's'],
  ['M', 'S', '-', 'L', 'P', 'L'],
  ['M', 'S', '-', 'P', 'L'],
  ['M', 'S', '-', 'R', 'L'],
  ['M', 'T', 'L', 'L'],
  ['M', 'u', 'l', 'a', 'n', 'P', 'S', 'L', '-', '1', '.', '0'],
  ['M', 'u', 'l', 'a', 'n', 'P', 'S', 'L', '-', '2', '.', '0'],
  ['M', 'u', 'l', 't', 'i', 'c', 's'],
  ['M', 'u', 'p'],
  ['N', 'A', 'I', 'S', 'T', '-', '2', '0', '0', '3'],
  ['N', 'A', 'S', 'A', '-', '1', '.', '3'],
  ['N', 'a', 'u', 'm', 'e', 'n'],
  ['N', 'B', 'P', 'L', '-', '1', '.', '0'],
  ['N', 'C', 'G', 'L', '-', 'U', 'K', '-', '2', '.', '0'],
  ['N', 'C', 'S', 'A'],
  ['N', 'e', 't', '-', 'S', 'N', 'M', 'P'],
  ['N', 'e', 't', 'C', 'D', 'F'],
  ['N', 'e', 'w', 's', 'l', 'e', 't', 'r'],
  ['N', 'G', 'P', 'L'],
  ['N', 'I', 'C', 'T', 'A', '-', '1', '.', '0'],
  ['N', 'I', 'S', 'T', '-', 'P', 'D'],
  ['N', 'I', 'S', 'T', '-', 'P', 'D', '-', 'f', 'a', 'l', 'l', 'b', 'a', 'c', 'k'],
  ['N', 'I', 'S', 'T', '-', 'S', 'o', 'f', 't', 'w', 'a', 'r', 'e'],
  ['N', 'L', 'O', 'D', '-', '1', '.', '0'],
  ['N', 'L', 'O', 'D', '-', '2', '.', '0'],
  ['N', 'L', 'P', 'L'],
  ['N', 'o', 'k', 'i', 'a'],
  ['N', 'O', 'S', 'L'],
  ['N', 'o', 'w', 'e', 'b'],
  ['N', 'P', 'L', '-', '1', '.', '0'],
  ['N', 'P', 'L', '-', '1', '.', '1'],
  ['N', 'P', 'O', 'S', 'L', '-', '3', '.', '0'],
  ['N', 'R', 'L'],
  ['N', 'T', 'P'],
  ['N', 'T', 'P', '-', '0'],
  ['N', 'u', 'n', 'i', 't'],
  ['O', '-', 'U', 'D', 'A', '-', '1', '.', '0'],
  ['O', 'C', 'C', 'T', '-', 'P', 'L'],
  ['O', 'C', 'L', 'C', '-', '2', '.', '0'],
  ['O', 'D', 'b', 'L', '-', '1', '.', '0'],
  ['O', 'D', 'C', '-', 'B', 'y', '-', '1', '.', '0'],
  ['O', 'F', 'F', 'I', 'S'],
  ['O', 'F', 'L', '-', '1', '.', '0'],
  ['O', 'F', 'L', '-', '1', '.', '0', '-', 'n', 'o', '-', 'R', 'F', 'N'],
  ['O', 'F', 'L', '-', '1', '.', '0', '-', 'R', 'F', 'N'],
  ['O', 'F', 'L', '-', '1', '.', '1'],
  ['O', 'F', 'L', '-', '1', '.', '1', '-', 'n', 'o', '-', 'R', 'F', 'N'],
  ['O', 'F', 'L', '-', '1', '.', '1', '-', 'R', 'F', 'N'],
  ['O', 'G', 'C', '-', '1', '.', '0'],
  ['O', 'G', 'D', 'L', '-', 'T', 'a', 'i', 'w', 'a', 'n', '-', '1', '.', '0'],
  ['O', 'G', 'L', '-', 'C', 'a', 'n', 'a', 'd', 'a', '-', '2', '.', '0'],
  ['O', 'G', 'L', '-', 'U', 'K', '-', '1', '.', '0'],
  ['O', 'G', 'L', '-', 'U', 'K', '-', '2', '.', '0'],
  ['O', 'G', 'L', '-', 'U', 'K', '-', '3', '.', '0'],
  ['O', 'G', 'T', 'S', 'L'],
  ['O', 'L', 'D', 'A', 'P', '-', '1', '.', '1'],
  ['O', 'L', 'D', 'A', 'P', '-', '1', '.', '2'],
  ['O', 'L', 'D', 'A', 'P', '-', '1', '.', '3'],
  ['O', 'L', 'D', 'A', 'P', '-', '1', '.', '4'],
  ['O', 'L', 'D', 'A', 'P', '-', '2', '.', '0'],
  ['O', 'L', 'D', 'A', 'P', '-', '2', '.', '0', '.', '1'],
  ['O', 'L', 'D', 'A', 'P', '-', '2', '.', '1'],
  ['O', 'L', 'D', 'A', 'P', '-', '2', '.', '2'],
  ['O', 'L', 'D', 'A', 'P', '-', '2', '.', '2', '.', '1'],
  ['O', 'L', 'D', 'A', 'P', '-', '2', '.', '2', '.', '2'],
  ['O', 'L', 'D', 'A', 'P', '-', '2', '.', '3'],
  ['O', 'L', 'D', 'A', 'P', '-', '2', '.', '4'],
  ['O', 'L', 'D', 'A', 'P', '-', '2', '.', '5'],
  ['O', 'L', 'D', 'A', 'P', '-', '2', '.', '6'],
  ['O', 'L', 'D', 'A', 'P', '-', '2', '.', '7'],
  ['O', 'L', 'D', 'A', 'P', '-', '2', '.', '8'],
  ['O', 'L', 'F', 'L', '-', '1', '.', '3'],
  ['O', 'M', 'L'],
  ['O', 'p', 'e', 'n', 'P', 'B', 'S', '-', '2', '.', '3'],
  ['O', 'p', 'e', 'n', 'S', 'S', 'L'],
  ['O', 'p', 'e', 'n', 'S', 'S', 'L', '-', 's', 't', 'a', 'n', 'd', 'a', 'l', 'o', 'n', 'e'],
  ['O', 'p', 'e', 'n', 'V', 'i', 's', 'i', 'o', 'n'],
  ['O', 'P', 'L', '-', '1', '.', '0'],
  ['O', 'P', 'L', '-', 'U', 'K', '-', '3', '.', '0'],
  ['O', 'P', 'U', 'B', 'L', '-', '1', '.', '0'],
  ['O', 'S', 'E', 'T', '-', 'P', 'L', '-', '2', '.', '1'],
  ['O', 'S', 'L', '-', '1', '.', '0'],
  ['O', 'S', 'L', '-', '1', '.', '1'],
  ['O', 'S', 'L', '-', '2', '.', '0'],
  ['O', 'S', 'L', '-', '2', '.', '1'],
  ['O', 'S', 'L', '-', '3', '.', '0'],
  ['P', 'A', 'D', 'L'],
  ['P', 'a', 'r', 'i', 't', 'y', '-', '6', '.', '0', '.', '0'],
  ['P', 'a', 'r', 'i', 't', 'y', '-', '7', '.', '0', '.', '0'],
  ['P', 'D', 'D', 'L', '-', '1', '.', '0'],
  ['P', 'H', 'P', '-', '3', '.', '0'],
  ['P', 'H', 'P', '-', '3', '.', '0', '1'],
  ['P', 'i', 'x', 'a', 'r'],
  ['P', 'l', 'e', 'x', 'u', 's'],
  ['p', 'n', 'm', 's', 't', 'i', 't', 'c', 'h'],
  ['P', 'o', 'l', 'y', 'F', 'o', 'r', 'm', '-', 'N', 'o', 'n', 'c', 'o', 'm', 'm', 'e', 'r', 'c', 'i', 'a', 'l', '-', '1', '.', '0', '.', '0'],
  ['P', 'o', 'l', 'y', 'F', 'o', 'r', 'm', '-', 'S', 'm', 'a', 'l', 'l', '-', 'B', 'u', 's', 'i', 'n', 'e', 's', 's', '-', '1', '.', '0', '.', '0'],
  ['P', 'o', 's', 't', 'g', 'r', 'e', 'S', 'Q', 'L'],
  ['P', 'S', 'F', '-', '2', '.', '0'],
  ['p', 's', 'f', 'r', 'a', 'g'],
  ['p', 's', 'u', 't', 'i', 'l', 's'],
  ['P', 'y', 't', 'h', 'o', 'n', '-', '2', '.', '0'],
  ['P', 'y', 't', 'h', 'o', 'n', '-', '2', '.', '0', '.', '1'],
  ['p', 'y', 't', 'h', 'o', 'n', '-', 'l', 'd', 'a', 'p'],
  ['Q', 'h', 'u', 'l', 'l'],
  ['Q', 'P', 'L', '-', '1', '.', '0'],
  ['Q', 'P', 'L', '-', '1', '.', '0', '-', 'I', 'N', 'R', 'I', 'A', '-', '2', '0', '0', '4'],
  ['r', 'a', 'd', 'v', 'd'],
  ['R', 'd', 'i', 's', 'c'],
  ['R', 'H', 'e', 'C', 'o', 's', '-', '1', '.', '1'],
  ['R', 'P', 'L', '-', '1', '.', '1'],
  ['R', 'P', 'L', '-', '1', '.', '5'],
  ['R', 'P', 'S', 'L', '-', '1', '.', '0'],
  ['R', 'S', 'A', '-', 'M', 'D'],
  ['R', 'S', 'C', 'P', 'L'],
  ['R', 'u', 'b', 'y'],
  ['S', 'A', 'X', '-', 'P', 'D'],
  ['S', 'A', 'X', '-', 'P', 'D', '-', '2', '.', '0'],
  ['S', 'a', 'x', 'p', 'a', 't', 'h'],
  ['S', 'C', 'E', 'A'],
  ['S', 'c', 'h', 'e', 'm', 'e', 'R', 'e', 'p', 'o', 'r', 't'],
  ['S', 'e', 'n', 'd', 'm', 'a', 'i', 'l'],
  ['S', 'e', 'n', 'd', 'm', 'a', 'i', 'l', '-', '8', '.', '2', '3'],
  ['S', 'G', 'I', '-', 'B', '-', '1', '.', '0'],
  ['S', 'G', 'I', '-', 'B', '-', '1', '.', '1'],
  ['S', 'G', 'I', '-', 'B', '-', '2', '.', '0'],
  ['S', 'G', 'I', '-', 'O', 'p', 'e', 'n', 'G', 'L'],
  ['S', 'G', 'P', '4'],
  ['S', 'H', 'L', '-', '0', '.', '5'],
  ['S', 'H', 'L', '-', '0', '.', '5', '1'],
  ['S', 'i', 'm', 'P', 'L', '-', '2', '.', '0'],
  ['S', 'I', 'S', 'S', 'L'],
  ['S', 'I', 'S', 'S', 'L', '-', '1', '.', '2'],
  ['S', 'L'],
  ['S', 'l', 'e', 'e', 'p', 'y', 'c', 'a', 't'],
  ['S', 'M', 'L', 'N', 'J'],
  ['S', 'M', 'P', 'P', 'L'],
  ['S', 'N', 'I', 'A'],
  ['s', 'n', 'p', 'r', 'i', 'n', 't', 'f'],
  ['s', 'o', 'f', 't', 'S', 'u', 'r', 'f', 'e', 'r'],
  ['S', 'o', 'u', 'n', 'd', 'e', 'x'],
  ['S', 'p', 'e', 'n', 'c', 'e', 'r', '-', '8', '6'],
  ['S', 'p', 'e', 'n', 'c', 'e', 'r', '-', '9', '4'],
  ['S', 'p', 'e', 'n', 'c', 'e', 'r', '-', '9', '9'],
  ['S', 'P', 'L', '-', '1', '.', '0'],
  ['s', 's', 'h', '-', 'k', 'e', 'y', 's', 'c', 'a', 'n'],
  ['S', 'S', 'H', '-', 'O', 'p', 'e', 'n', 'S', 'S', 'H'],
  ['S', 'S', 'H', '-', 's', 'h', 'o', 'r', 't'],
  ['S', 'S', 'L', 'e', 'a', 'y', '-', 's', 't', 'a', 'n', 'd', 'a', 'l', 'o', 'n', 'e'],
  ['S', 'S', 'P', 'L', '-', '1', '.', '0'],
  ['S', 't', 'a', 'n', 'd', 'a', 'r', 'd', 'M', 'L', '-', 'N', 'J'],
  ['S', 'u', 'g', 'a', 'r', 'C', 'R', 'M', '-', '1', '.', '1', '.', '3'],
  ['S', 'u', 'n', '-', 'P', 'P', 'P'],
  ['S', 'u', 'n', 'P', 'r', 'o'],
  ['S', 'W', 'L'],
  ['s', 'w', 'r', 'u', 'l', 'e'],
  ['S', 'y', 'm', 'l', 'i', 'n', 'k', 's'],
  ['T', 'A', 'P', 'R', '-', 'O', 'H', 'L', '-', '1', '.', '0'],
  ['T', 'C', 'L'],
  ['T', 'C', 'P', '-', 'w', 'r', 'a', 'p', 'p', 'e', 'r', 's'],
  ['T', 'e', 'r', 'm', 'R', 'e', 'a', 'd', 'K', 'e', 'y'],
  ['T', 'G', 'P', 'P', 'L', '-', '1', '.', '0'],
  ['T', 'M', 'a', 't', 'e'],
  ['T', 'O', 'R', 'Q', 'U', 'E', '-', '1', '.', '1'],
  ['T', 'O', 'S', 'L'],
  ['T', 'P', 'D', 'L'],
  ['T', 'P', 'L', '-', '1', '.', '0'],
  ['T', 'T', 'W', 'L'],
  ['T', 'T', 'Y', 'P', '0'],
  ['T', 'U', '-', 'B', 'e', 'r', 'l', 'i', 'n', '-', '1', '.', '0'],
  ['T', 'U', '-', 'B', 'e', 'r', 'l', 'i', 'n', '-', '2', '.', '0'],
  ['U', 'C', 'A', 'R'],
  ['U', 'C', 'L', '-', '1', '.', '0'],
  ['u', 'l', 'e', 'm'],
  ['U', 'M', 'i', 'c', 'h', '-', 'M', 'e', 'r', 'i', 't'],
  ['U', 'n', 'i', 'c', 'o', 'd', 'e', '-', '3', '.', '0'],
  ['U', 'n', 'i', 'c', 'o', 'd', 'e', '-', 'D', 'F', 'S', '-', '2', '0', '1', '5'],
  ['U', 'n', 'i', 'c', 'o', 'd', 'e', '-', 'D', 'F', 'S', '-', '2', '0', '1', '6'],
  ['U', 'n', 'i', 'c', 'o', 'd', 'e', '-', 'T', 'O', 'U'],
  ['U', 'n', 'i', 'x', 'C', 'r', 'y', 'p', 't'],
  ['U', 'n', 'l', 'i', 'c', 'e', 'n', 's', 'e'],
  ['U', 'P', 'L', '-', '1', '.', '0'],
  ['U', 'R', 'T', '-', 'R', 'L', 'E'],
  ['V', 'i', 'm'],
  ['V', 'O', 'S', 'T', 'R', 'O', 'M'],
  ['V', 'S', 'L', '-', '1', '.', '0'],
  ['W', '3', 'C'],
  ['W', '3', 'C', '-', '1', '9', '9', '8', '0', '7', '2', '0'],
  ['W', '3', 'C', '-', '2', '0', '1', '5', '0', '5', '1', '3'],
  ['w', '3', 'm'],
  ['W', 'a', 't', 'c', 'o', 'm', '-', '1', '.', '0'],
  ['W', 'i', 'd', 'g', 'e', 't', '-', 'W', 'o', 'r', 'k', 's', 'h', 'o', 'p'],
  ['W', 's', 'u', 'i', 'p', 'a'],
  ['W', 'T', 'F', 'P', 'L'],
  ['w', 'x', 'W', 'i', 'n', 'd', 'o', 'w', 's'],
  ['X', '1', '1'],
  ['X', '1', '1', '-', 'd', 'i', 's', 't', 'r', 'i', 'b', 'u', 't', 'e', '-', 'm', 'o', 'd', 'i', 'f', 'i', 'c', 'a', 't', 'i', 'o', 'n', 's', '-', 'v', 'a', 'r', 'i', 'a', 'n', 't'],
  ['X', 'd', 'e', 'b', 'u', 'g', '-', '1', '.', '0', '3'],
  ['X', 'e', 'r', 'o', 'x'],
  ['X', 'f', 'i', 'g'],
  ['X', 'F', 'r', 'e', 'e', '8', '6', '-', '1', '.', '1'],
  ['x', 'i', 'n', 'e', 't', 'd'],
  ['x', 'k', 'e', 'y', 'b', 'o', 'a', 'r', 'd', '-', 'c', 'o', 'n', 'f', 'i', 'g', '-', 'Z', 'i', 'n', 'o', 'v', 'i', 'e', 'v'],
  ['x', 'l', 'o', 'c', 'k'],
  ['X', 'n', 'e', 't'],
  ['x', 'p', 'p'],
  ['X', 'S', 'k', 'a', 't'],
  ['Y', 'P', 'L', '-', '1', '.', '0'],
  ['Y', 'P', 'L', '-', '1', '.', '1'],
  ['Z', 'e', 'd'],
  ['Z', 'e', 'e', 'f', 'f'],
  ['Z', 'e', 'n', 'd', '-', '2', '.', '0'],
  ['Z', 'i', 'm', 'b', 'r', 'a', '-', '1', '.', '3'],
  ['Z', 'i', 'm', 'b', 'r', 'a', '-', '1', '.', '4'],
  ['Z', 'l', 'i', 'b'],
  ['z', 'l', 'i', 'b', '-', 'a', 'c', 'k', 'n', 'o', 'w', 'l', 'e', 'd', 'g', 'e', 'm', 'e', 'n', 't'],
  ['Z', 'P', 'L', '-', '1', '.', '1'],
  ['Z', 'P', 'L', '-', '2', '.', '0'],
  ['Z', 'P', 'L', '-', '2', '.', '1']]

def exceptions : List Text := [
  ['3', '8', '9', '-', 'e', 'x', 'c', 'e', 'p', 't', 'i', 'o', 'n'],
  ['A', 's', 't', 'e', 'r', 'i', 's', 'k', '-', 'e', 'x', 'c', 'e', 'p', 't', 'i', 'o', 'n'],
  ['A', 'u', 't', 'o', 'c', 'o', 'n', 'f', '-', 'e', 'x', 'c', 'e', 'p', 't', 'i', 'o', 'n', '-', '2', '.', '0'],
  ['A', 'u', 't', 'o', 'c', 'o', 'n', 'f', '-', 'e', 'x', 'c', 'e', 'p', 't', 'i', 'o', 'n', '-', '3', '.', '0'],
  ['A', 'u', 't', 'o', 'c', 'o', 'n', 'f', '-', 'e', 'x', 'c', 'e', 'p', 't', 'i', 'o', 'n', '-', 'g', 'e', 'n', 'e', 'r', 'i', 'c'],
  ['A', 'u', 't', 'o', 'c', 'o', 'n', 'f', '-', 'e', 'x', 'c', 'e', 'p', 't', 'i', 'o', 'n', '-', 'g', 'e', 'n', 'e', 'r', 'i', 'c', '-', '3', '.', '0'],
  ['A', 'u', 't', 'o', 'c', 'o', 'n', 'f', '-', 'e', 'x', 'c', 'e', 'p', 't', 'i', 'o', 'n', '-', 'm', 'a', 'c', 'r', 'o'],
  ['B', 'i', 's', 'o', 'n', '-', 'e', 'x', 'c', 'e', 'p', 't', 'i', 'o', 'n', '-', '1', '.', '2', '4'],
  ['B', 'i', 's', 'o', 'n', '-', 'e', 'x', 'c', 'e', 'p', 't', 'i', 'o', 'n', '-', '2', '.', '2'],
  ['B', 'o', 'o', 't', 'l', 'o', 'a', 'd', 'e', 'r', '-', 'e', 'x', 'c', 'e', 'p', 't', 'i', 'o', 'n'],
  ['C', 'l', 'a', 's', 's', 'p', 'a', 't', 'h', '-', 'e', 'x', 'c', 'e', 'p', 't', 'i', 'o', 'n', '-', '2', '.', '0'],
  ['C', 'L', 'I', 'S', 'P', '-', 'e', 'x', 'c', 'e', 'p', 't', 'i', 'o', 'n', '-', '2', '.', '0'],
  ['c', 'r', 'y', 'p', 't', 's', 'e', 't', 'u', 'p', '-', 'O', 'p', 'e', 'n', 'S', 'S', 'L', '-', 'e', 'x', 'c', 'e', 'p', 't', 'i', 'o', 'n'],
  ['D', 'i', 'g', 'i', 'R', 'u', 'l', 'e', '-', 'F', 'O', 'S', 'S', '-', 'e', 'x', 'c', 'e', 'p', 't', 'i', 'o', 'n'],
  ['e', 'C', 'o', 's', '-', 'e', 'x', 'c', 'e', 'p', 't', 'i', 'o', 'n', '-', '2', '.', '0'],
  ['F', 'a', 'w', 'k', 'e', 's', '-', 'R', 'u', 'n', 't', 'i', 'm', 'e', '-', 'e', 'x', 'c', 'e', 'p', 't', 'i', 'o', 'n'],
  ['F', 'L', 'T', 'K', '-', 'e', 'x', 'c', 'e', 'p', 't', 'i', 'o', 'n'],
  ['f', 'm', 't', '-', 'e', 'x', 'c', 'e', 'p', 't', 'i', 'o', 'n'],
  ['F', 'o', 'n', 't', '-', 'e', 'x', 'c', 'e', 'p', 't', 'i', 'o', 'n', '-', '2', '.', '0'],
  ['f', 'r', 'e', 'e', 'r', 't', 'o', 's', '-', 'e', 'x', 'c', 'e', 'p', 't', 'i', 'o', 'n', '-', '2', '.', '0'],
  ['G', 'C', 'C', '-', 'e', 'x', 'c', 'e', 'p', 't', 'i', 'o', 'n', '-', '2', '.', '0'],
  ['G', 'C', 'C', '-', 'e', 'x', 'c', 'e', 'p', 't', 'i', 'o', 'n', '-', '2', '.', '0', '-', 'n', 'o', 't', 'e'],
  ['G', 'C', 'C', '-', 'e', 'x', 'c', 'e', 'p', 't', 'i', 'o', 'n', '-', '3', '.', '1'],
  ['G', 'm', 's', 'h', '-', 'e', 'x', 'c', 'e', 'p', 't', 'i', 'o', 'n'],
  ['G', 'N', 'A', 'T', '-', 'e', 'x', 'c', 'e', 'p', 't', 'i', 'o', 'n'],
  ['G', 'N', 'O', 'M', 'E', '-', 'e', 'x', 'a', 'm', 'p', 'l', 'e', 's', '-', 'e', 'x', 'c', 'e', 'p', 't', 'i', 'o', 'n'],
  ['G', 'N', 'U', '-', 'c', 'o', 'm', 'p', 'i', 'l', 'e', 'r', '-', 'e', 'x', 'c', 'e', 'p', 't', 'i', 'o', 'n'],
  ['g', 'n', 'u', '-', 'j', 'a', 'v', 'a', 'm', 'a', 'i', 'l', '-', 'e', 'x', 'c', 'e', 'p', 't', 'i', 'o', 'n'],
  ['G', 'P', 'L', '-', '3', '.', '0', '-', 'i', 'n', 't', 'e', 'r', 'f', 'a', 'c', 'e', '-', 'e', 'x', 'c', 'e', 'p', 't', 'i', 'o', 'n'],
  ['G', 'P', 'L', '-', '3', '.', '0', '-', 'l', 'i', 'n', 'k', 'i', 'n', 'g', '-', 'e', 'x', 'c', 'e', 'p', 't', 'i', 'o', 'n'],
  ['G', 'P', 'L', '-', '3', '.', '0', '-', 'l', 'i', 'n', 'k', 'i', 'n', 'g', '-', 's', 'o', 'u', 'r', 'c', 'e', '-', 'e', 'x', 'c', 'e', 'p', 't', 'i', 'o', 'n'],
  ['G', 'P', 'L', '-', 'C', 'C', '-', '1', '.', '0'],
  ['G', 'S', 't', 'r', 'e', 'a', 'm', 'e', 'r', '-', 'e', 'x', 'c', 'e', 'p', 't', 'i', 'o', 'n', '-', '2', '0', '0', '5'],
  ['G', 'S', 't', 'r', 'e', 'a', 'm', 'e', 'r', '-', 'e', 'x', 'c', 'e', 'p', 't', 'i', 'o', 'n', '-', '2', '0', '0', '8'],
  ['i', '2', 'p', '-', 'g', 'p', 'l', '-', 'j', 'a', 'v', 'a', '-', 'e', 'x', 'c', 'e', 'p', 't', 'i', 'o', 'n'],
  ['K', 'i', 'C', 'a', 'd', '-', 'l', 'i', 'b', 'r', 'a', 'r', 'i', 'e', 's', '-', 'e', 'x', 'c', 'e', 'p', 't', 'i', 'o', 'n'],
  ['L', 'G', 'P', 'L', '-', '3', '.', '0', '-', 'l', 'i', 'n', 'k', 'i', 'n', 'g', '-', 'e', 'x', 'c', 'e', 'p', 't', 'i', 'o', 'n'],
  ['l', 'i', 'b', 'p', 'r', 'i', '-', 'O', 'p', 'e', 'n', 'H', '3', '2', '3', '-', 'e', 'x', 'c', 'e', 'p', 't', 'i', 'o', 'n'],
  ['L', 'i', 'b', 't', 'o', 'o', 'l', '-', 'e', 'x', 'c', 'e', 'p', 't', 'i', 'o', 'n'],
  ['L', 'i', 'n', 'u', 'x', '-', 's', 'y', 's', 'c', 'a', 'l', 'l', '-', 'n', 'o', 't', 'e'],
  ['L', 'L', 'G', 'P', 'L'],
  ['L', 'L', 'V', 'M', '-', 'e', 'x', 'c', 'e', 'p', 't', 'i', 'o', 'n'],
  ['L', 'Z', 'M', 'A', '-', 'e', 'x', 'c', 'e', 'p', 't', 'i', 'o', 'n'],
  ['m', 'i', 'f', '-', 'e', 'x', 'c', 'e', 'p', 't', 'i', 'o', 'n'],
  ['N', 'o', 'k', 'i', 'a', '-', 'Q', 't', '-', 'e', 'x', 'c', 'e', 'p', 't', 'i', 'o', 'n', '-', '1', '.', '1'],
  ['O', 'C', 'a', 'm', 'l', '-', 'L', 'G', 'P', 'L', '-', 'l', 'i', 'n', 'k', 'i', 'n', 'g', '-', 'e', 'x', 'c', 'e', 'p', 't', 'i', 'o', 'n'],
  ['O', 'C', 'C', 'T', '-', 'e', 'x', 'c', 'e', 'p', 't', 'i', 'o', 'n', '-', '1', '.', '0'],
  ['O', 'p', 'e', 'n', 'J', 'D', 'K', '-', 'a', 's', 's', 'e', 'm', 'b', 'l', 'y', '-', 'e', 'x', 'c', 'e', 'p', 't', 'i', 'o', 'n', '-', '1', '.', '0'],
  ['o', 'p', 'e', 'n', 'v', 'p', 'n', '-', 'o', 'p', 'e', 'n', 's', 's', 'l', '-', 'e', 'x', 'c', 'e', 'p', 't', 'i', 'o', 'n'],
  ['P', 'S', '-', 'o', 'r', '-', 'P', 'D', 'F', '-', 'f', 'o', 'n', 't', '-', 'e', 'x', 'c', 'e', 'p', 't', 'i', 'o', 'n', '-', '2', '0', '1', '7', '0', '8', '1', '7'],
  ['Q', 'P', 'L', '-', '1', '.', '0', '-', 'I', 'N', 'R', 'I', 'A', '-', '2', '0', '0', '4', '-', 'e', 'x', 'c', 'e', 'p', 't', 'i', 'o', 'n'],
  ['Q', 't', '-', 'G', 'P', 'L', '-', 'e', 'x', 'c', 'e', 'p', 't', 'i', 'o', 'n', '-', '1', '.', '0'],
  ['Q', 't', '-', 'L', 'G', 'P', 'L', '-', 'e', 'x', 'c', 'e', 'p', 't', 'i', 'o', 'n', '-', '1', '.', '1'],
  ['Q', 'w', 't', '-', 'e', 'x', 'c', 'e', 'p', 't', 'i', 'o', 'n', '-', '1', '.', '0'],
  ['S', 'A', 'N', 'E', '-', 'e', 'x', 'c', 'e', 'p', 't', 'i', 'o', 'n'],
  ['S', 'H', 'L', '-', '2', '.', '0'],
  ['S', 'H', 'L', '-', '2', '.', '1'],
  ['s', 't', 'u', 'n', 'n', 'e', 'l', '-', 'e', 'x', 'c', 'e', 'p', 't', 'i', 'o', 'n'],
  ['S', 'W', 'I', '-', 'e', 'x', 'c', 'e', 'p', 't', 'i', 'o', 'n'],
  ['S', 'w', 'i', 'f', 't', '-', 'e', 'x', 'c', 'e', 'p', 't', 'i', 'o', 'n'],
  ['T', 'e', 'x', 'i', 'n', 'f', 'o', '-', 'e', 'x', 'c', 'e', 'p', 't', 'i', 'o', 'n'],
  ['u', '-', 'b', 'o', 'o', 't', '-', 'e', 'x', 'c', 'e', 'p', 't', 'i', 'o', 'n', '-', '2', '.', '0'],
  ['U', 'B', 'D', 'L', '-', 'e', 'x', 'c', 'e', 'p', 't', 'i', 'o', 'n'],
  ['U', 'n', 'i', 'v', 'e', 'r', 's', 'a', 'l', '-', 'F', 'O', 'S', 'S', '-', 'e', 'x', 'c', 'e', 'p', 't', 'i', 'o', 'n', '-', '1', '.', '0'],
  ['v', 's', 'f', 't', 'p', 'd', '-', 'o', 'p', 'e', 'n', 's', 's', 'l', '-', 'e', 'x', 'c', 'e', 'p', 't', 'i', 'o', 'n'],
  ['W', 'x', 'W', 'i', 'n', 'd', 'o', 'w', 's', '-', 'e', 'x', 'c', 'e', 'p', 't', 'i', 'o', 'n', '-', '3', '.', '1'],
  ['x', '1', '1', 'v', 'n', 'c', '-', 'o', 'p', 'e', 'n', 's', 's', 'l', '-', 'e', 'x', 'c', 'e', 'p', 't', 'i', 'o', 'n']]

/-! ## Looking identifiers up

An index lists the entries of a registry under their lower-case spelling, and of two entries under one key the first
is found.  A text with a character outside ASCII is never looked up, because its lower case may be an ASCII text: the
Kelvin sign becomes a `k`. -/

def version : String := "3.23"

abbrev Index := List (Text × Text)

def index (ids : List Text) : Index := ids.map fun i => (i.lower, i)

def Index.find? (ix : Index) (t : Text) : Option Text :=
  if t.isAscii then ix.lookup t.lower else none

def licenseIndex : Index := index licenses

def exceptionIndex : Index := index exceptions

/-- The registry's own spelling of a license identifier. -/
def findLicense? (t : Text) : Option Text := licenseIndex.find? t

/-- The registry's own spelling of an exception identifier. -/
def findException? (t : Text) : Option Text := exceptionIndex.find? t

end Licensing.Registry
