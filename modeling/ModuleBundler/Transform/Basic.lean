import ModuleBundler.Json.Parser
import ModuleBundler.Table
import ModuleBundler.Text.Debug
import ModuleBundler.Text.Quoted

/-!
Transforms turn the source of a module into another one, or fail with a message.
-/

namespace ModuleBundler

abbrev Transform := String → Except String String

namespace Transform

def json : Transform := fun source =>
  if Json.isDocument source then
    .ok ("module.exports = " ++ Unicode.trimWhiteSpace source ++ ";")
  else .error "Invalid JSON"

def css : Transform := fun source =>
  .ok ("(function() \x7b\n  var style = document.createElement('style');\n  style.textContent = " ++
    Text.quoted source ++
    ";\n  document.head.appendChild(style);\n\x7d)();\nmodule.exports = \x7b\x7d;\n")

def raw : Transform := fun source =>
  .ok ("module.exports = " ++ Text.quoted source ++ ";")

end Transform

abbrev TransformRegistry := Table Transform

namespace TransformRegistry

def builtins : TransformRegistry :=
  Table.ofList [("json", Transform.json), ("css", Transform.css), ("raw", Transform.raw)]

def debugText (registry : TransformRegistry) : String :=
  Text.debugRecord "TransformRegistry" [("transforms", registry.names)]

end TransformRegistry

end ModuleBundler
