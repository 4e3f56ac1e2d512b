import EnvTemplate.Template.Basic

/-!
# Module dialects

A generated module is JavaScript or TypeScript with an import and an export, or JavaScript with
the calls of CommonJS in their place.
-/
namespace EnvTemplate.Module

/-- The dialects of a generated module. -/
inductive Dialect
  /-- JavaScript with imports and exports. -/
  | js
  /-- TypeScript. -/
  | ts
  /-- JavaScript in the way of CommonJS. -/
  | cjs
deriving DecidableEq, Repr

/-- The package that a generated module imports from. -/
def runtimePackage : String := "envus"

namespace Dialect

/-- The dialect of a name. -/
def ofName? (name : String) : Option Dialect :=
  match Template.modeName name with
  | "js" => some js
  | "esm" => some js
  | "ts" => some ts
  | "typescript" => some ts
  | "cjs" => some cjs
  | "commonjs" => some cjs
  | _ => none

/-- The import at the top of a module. -/
def header : Dialect → String
  | cjs => "const \x7b loadEnv, defineConfig, schema \x7d = require(\"" ++ runtimePackage ++ "\");\n\n"
  | _ => "import \x7b loadEnv, defineConfig, schema \x7d from \"" ++ runtimePackage ++ "\";\n\n"

/-- The export of the configuration, up to its object literal. -/
def exportLead : Dialect → String
  | cjs => "module.exports.config = defineConfig("
  | _ => "export const config = defineConfig("

end Dialect

end EnvTemplate.Module
