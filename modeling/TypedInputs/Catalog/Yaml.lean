/-
# Catalogs in YAML

The library that the program runs with reads YAML as far as it is JSON: a file of blanks is null, and
any other holds a JSON text. It refuses the other forms of YAML, and even some JSON texts mean something
else in YAML, which has no tab between two parts and reads `1e0` as a text.
-/

import TypedInputs.Catalog.Loader

namespace TypedInputs
namespace Catalog

/-- The data in the bytes of a file in YAML that is JSON. -/
def readJsonAsYaml (bytes : List UInt8) : Except String Value := do
  let text ← (textOfFile bytes).mapError Text.Utf8Fault.message
  if text.toList.all Json.isBlank then return .null
  (Json.read text).mapError Json.Fault.message

instance yamlLibrary : YamlLibrary where
  read? := some readJsonAsYaml

end Catalog
end TypedInputs
