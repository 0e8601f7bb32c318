import TypeGuard.Syntax

/-!
# Bound names

The names that a pattern binds, and the names that a list of statements binds before any of its
statements runs: those of `var` at any depth outside nested functions and classes, and those of the
functions and classes declared in the list itself.
-/

namespace TypeGuard

mutual
/-- Every identifier that a pattern binds, left to right. -/
def Pattern.boundNames : Pattern → List String
  | .ident name => [name]
  | .object props => boundByProps props
  | .array elems => boundByElems elems
  | .default left _ => left.boundNames
  | .rest inner => inner.boundNames

def boundByProps : List PatternProp → List String
  | [] => []
  | .keyValue _ value _ :: ps => value.boundNames ++ boundByProps ps
  | .rest inner :: ps => inner.boundNames ++ boundByProps ps

def boundByElems : List (Option Pattern) → List String
  | [] => []
  | some p :: ps => p.boundNames ++ boundByElems ps
  | none :: ps => boundByElems ps
end

namespace VarDecl

/-- Every identifier that the declaration binds. -/
def boundNames (d : VarDecl) : List String := d.declarators.flatMap fun x => x.id.boundNames

/-- The identifiers that the declaration binds in the whole function. -/
def hoistedNames (d : VarDecl) : List String := if d.kind = .var then d.boundNames else []

end VarDecl

def ForInit.hoistedNames : ForInit → List String
  | .varDecl decl => decl.hoistedNames
  | .expr _ => []

def ForHead.hoistedNames : ForHead → List String
  | .varDecl decl => decl.hoistedNames
  | .target _ => []

mutual
/-- The names bound by `var` in a statement, those in nested functions and classes left out. -/
def Stmt.varNames : Stmt → List String
  | .varDecl decl => decl.hoistedNames
  | .ifElse _ consequent alternate =>
    consequent.varNames ++ match alternate with | some s => s.varNames | none => []
  | .block stmts => varNames stmts
  | .forLoop init _ _ body =>
    (match init with | some i => i.hoistedNames | none => []) ++ body.varNames
  | .forIn left _ body => left.hoistedNames ++ body.varNames
  | .forOf left _ body _ => left.hoistedNames ++ body.varNames
  | .while _ body => body.varNames
  | .doWhile body _ => body.varNames
  | .labeled _ body => body.varNames
  | .tryCatch stmts handler finalizer =>
    varNames stmts ++ (match handler with | some ⟨_, body⟩ => varNames body | none => []) ++
      match finalizer with | some stmts => varNames stmts | none => []
  | .switch _ cases => caseVarNames cases
  | .export (some decl) _ _ _ => decl.varNames
  | _ => []

/-- The names bound by `var` in a list of statements. -/
def varNames : List Stmt → List String
  | [] => []
  | s :: ss => s.varNames ++ varNames ss

def caseVarNames : List SwitchCase → List String
  | [] => []
  | ⟨_, stmts⟩ :: cs => varNames stmts ++ caseVarNames cs
end

/-- The statement that an export declares, and any other statement itself. -/
def Stmt.declaration? : Stmt → Option Stmt
  | .export decl _ _ _ => decl
  | s => some s

/-- The name that a function or class declaration binds. -/
def Stmt.declaredName? (s : Stmt) : Option String :=
  match s.declaration? with
  | some (.function func) => func.id
  | some (.class decl) => decl.id
  | _ => none

/-- The names of the functions and classes declared in the list itself, exported or not. -/
def declaredNames (stmts : List Stmt) : List String := stmts.filterMap Stmt.declaredName?

end TypeGuard
