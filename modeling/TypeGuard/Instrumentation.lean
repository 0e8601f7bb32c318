import TypeGuard.Instrumentation.Syntax

/-!
# Instrumented units

The instrumentation of a whole unit: its statements with their checks, the import that the checks
need in front, and the definitions of recursive types and the helpers behind.
-/

namespace TypeGuard

open Visit Instrumentation

namespace Setting

/-- The setting in which a unit is visited. -/
def ofProgram (options : Options) (p : Program) : Setting := ⟨options, p.fileName, .ofProgram p⟩

/-- The environment of the statements of a unit. -/
def environment (cx : Setting) : Environment := .root cx.options.globals cx.options.ambientTypes

end Setting

namespace VisitState

/-- Whether the assert helper is needed. -/
def needsAssertHelper (s : VisitState) (options : Options) : Bool :=
  s.hasAsserts && !options.skipHelpers

/-- Whether the extend helper is needed. -/
def needsExtendHelper (s : VisitState) (options : Options) : Bool :=
  s.hasExtend && !options.skipHelpers

/-- Whether the library has to be imported. -/
def needsImport (s : VisitState) (options : Options) : Bool :=
  s.hasTypes || s.needsAssertHelper options || s.needsExtendHelper options

end VisitState

namespace Setting

/-- The statements around the body of a unit, after the visit that left the given state: the import,
the body, the definitions still to be written, and the helpers. -/
def enclose (cx : Setting) (s : VisitState) (body : List Stmt) : List Stmt :=
  (if s.needsImport cx.options then
    [Support.libraryImport cx.names cx.options.runtimeLibrary] else []) ++
  body ++ (Definition.flushSince cx.names.runtime 0 s.pending).1 ++
  (if s.needsAssertHelper cx.options then
    [Support.assertHelper cx.names cx.options.warnOnFailure] else []) ++
  if s.needsExtendHelper cx.options then [Support.extendHelper cx.names] else []

/-- The visit of the statements of a unit. -/
def visitUnit (cx : Setting) (stmts : List Stmt) : Visit (List Stmt) := do
  recordNames (varNames stmts)
  statementList cx stmts (instrumentEach cx cx.environment stmts)

end Setting

/-- The unit with its annotations turned into runtime checks, or the first diagnostic. -/
def Program.instrument (options : Options) (p : Program) : Except Diagnostic Program :=
  let cx := Setting.ofProgram options p
  match cx.visitUnit p.body VisitState.start with
  | .ok body s => .ok { p with body := cx.enclose s body }
  | .error d _ => .error d

end TypeGuard
