import ModuleBundler.Bundle.Chunk
import ModuleBundler.Text.Quoted

/-!
The script that a chunk is written as: a registry of its modules, each a function, and a loader that runs a
module when it is first asked for.
-/

namespace ModuleBundler.Bundle

open Text (quoted)

def loaderName : String := "__modpack_require__"

def registryName : String := "__modpack_modules__"

def cacheName : String := "__modpack_module_cache__"

def externalSource (global : String) : String :=
  "module.exports = globalThis[" ++ quoted global ++ "];"

def moduleHeader (id : String) (isExternal : Bool) : String :=
  "\n/***/ " ++ quoted id ++ ": (function (module, exports, " ++ loaderName ++ ") \x7b // " ++ id ++
    (if isExternal then " (external)" else "") ++ "\n"

def renderModule (id : String) (module : Module) : String :=
  moduleHeader id module.isExternal ++ module.source ++ "\n/***/ \x7d),\n"

def renderModules (graph : ModuleGraph) (ids : List String) : String :=
  String.join (ids.filterMap fun id => (graph.find? id).map (renderModule id))

/-- The cache of instances and the loader. An instance is cached before its body is run, so that modules
that require each other see what is there already. -/
def runtime : String :=
  "  var " ++ cacheName ++ " = \x7b\x7d;\n\n" ++
  "  function " ++ loaderName ++ "(moduleId) \x7b\n" ++
  "    var cachedModule = " ++ cacheName ++ "[moduleId];\n" ++
  "    if (cachedModule !== undefined) \x7b\n" ++
  "      return cachedModule.exports;\n" ++
  "    \x7d\n" ++
  "    if (!Object.prototype.hasOwnProperty.call(" ++ registryName ++ ", moduleId)) \x7b\n" ++
  "      throw new Error(\x22Cannot find module '\x22 + moduleId + \x22'\x22);\n" ++
  "    \x7d\n" ++
  "    var module = (" ++ cacheName ++ "[moduleId] = \x7b exports: \x7b\x7d \x7d);\n" ++
  "    " ++ registryName ++ "[moduleId].call(module.exports, module, module.exports, " ++ loaderName ++
    ");\n" ++
  "    return module.exports;\n" ++
  "  \x7d\n\n"

def render (chunk : Chunk) (graph : ModuleGraph) : String :=
  "(() => \x7b\n  var " ++ registryName ++ " = \x7b\n" ++ renderModules graph chunk.modules ++
    "\n  \x7d;\n" ++ runtime ++ "  var __modpack_exports__ = " ++ loaderName ++ "(" ++
    quoted chunk.entryModule ++ ");\n\x7d)();\n"

end ModuleBundler.Bundle
