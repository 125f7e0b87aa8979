import Licensing.Value
/-!
# The text of a registry

A registry is written as a module with three constants: the version of the list and one tuple of identifiers each for
licenses and exceptions.  Every identifier has a line of its own.
-/
namespace Licensing.Registry

/-- The lines that open the module. -/
def opening : List String := [
  "# Copyright 2026 tplkit authors",
  "#",
  "# Licensed under the Apache License, Version 2.0 (the \"License\");",
  "# you may not use this file except in compliance with the License.",
  "# You may obtain a copy of the License at",
  "#",
  "#     http://www.apache.org/licenses/LICENSE-2.0",
  "#",
  "# Unless required by applicable law or agreed to in writing, software",
  "# distributed under the License is distributed on an \"AS IS\" BASIS,",
  "# WITHOUT WARRANTIES OR CONDITIONS OF ANY KIND, either express or implied.",
  "# See the License for the specific language governing permissions and",
  "# limitations under the License.",
  "#",
  "# SPDX-License-Identifier: Apache-2.0",
  "",
  "\"\"\"SPDX license and exception identifier registries.",
  "",
  "Generated by ``scripts/generate_spdx_registry.py`` from the SPDX",
  "license-list-data JSON files. Do not edit by hand; regenerate instead.",
  "\"\"\"",
  "",
  "from __future__ import annotations",
  "",
  "__all__ = [",
  "    'EXCEPTION_IDS',",
  "    'LICENSE_IDS',",
  "    'REGISTRY_VERSION',",
  "]",
  ""]

/-- A version tag may begin with a letter v, which the version itself has not. -/
def untagged (tag : Text) : Text := (Text.after? ['v'] tag).getD tag

variable {σ : Type} [Text.Quotable σ]

/-- The line of an identifier. -/
def entryLine (id : Value σ) : Text := Text.spaces 4 ++ id.shown ++ [',']

def tupleLines (name : String) (ids : List (Value σ)) : List Text :=
  (name.toList ++ ": tuple[str, ...] = (".toList) :: ids.map entryLine ++ [[')']]

def sourceLines (tag : Text) (licenses exceptions : List (Value σ)) : List Text :=
  opening.map String.toList ++ ("REGISTRY_VERSION = ".toList ++ Text.quoted (untagged tag)) :: [] ::
    tupleLines "LICENSE_IDS" licenses ++ [] :: tupleLines "EXCEPTION_IDS" exceptions

/-- Every line ends with a line break. -/
def source (tag : Text) (licenses exceptions : List (Value σ)) : Text :=
  (sourceLines tag licenses exceptions).flatMap (· ++ ['\n'])

end Licensing.Registry
