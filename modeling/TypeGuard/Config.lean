import TypeGuard.Options

/-!
# Configurations

A configuration file may set some of the options and extend another file, whose settings count where
it has none itself. Flags count more than any file.
-/

namespace TypeGuard

/-- Options as a file sets them, each of which may be left open. -/
structure Settings where
  skipHelpers : Option Bool
  skipAsserts : Option Bool
  warnOnFailure : Option Bool
  globals : Option (List String)
  ambientTypes : Option (List String)
  runtimeLibrary : Option String
  deriving DecidableEq, Repr, Inhabited

namespace Settings

/-- The settings that leave every option open. -/
def unset : Settings := ⟨none, none, none, none, none, none⟩

/-- The settings, or those of a base where these leave an option open. -/
def withBase (s base : Settings) : Settings :=
  ⟨s.skipHelpers.or base.skipHelpers, s.skipAsserts.or base.skipAsserts,
    s.warnOnFailure.or base.warnOnFailure, s.globals.or base.globals,
    s.ambientTypes.or base.ambientTypes, s.runtimeLibrary.or base.runtimeLibrary⟩

/-- The options, with their defaults where the settings leave them open. -/
def options (s : Settings) : Options :=
  let d := Options.default
  ⟨s.skipHelpers.getD d.skipHelpers, s.skipAsserts.getD d.skipAsserts,
    s.warnOnFailure.getD d.warnOnFailure, s.globals.getD d.globals,
    s.ambientTypes.getD d.ambientTypes, s.runtimeLibrary.getD d.runtimeLibrary⟩

end Settings

/-- A configuration file. -/
structure Config where
  /-- The file that it extends. -/
  base : Option String
  settings : Option Settings
  deriving DecidableEq, Repr, Inhabited

namespace Config

/-- The configuration that says nothing. -/
def empty : Config := ⟨none, none⟩

/-- The configuration with the settings of its base, which extends nothing any more. -/
def withBase (c base : Config) : Config :=
  match c.settings, base.settings with
  | some s, some t => ⟨none, some (s.withBase t)⟩
  | some s, none => ⟨none, some s⟩
  | none, t => ⟨none, t⟩

/-- What the configuration sets. -/
def resolved (c : Config) : Settings := c.settings.getD .unset

end Config

/-- Options given when the program is called. -/
structure Flags where
  skipAsserts : Bool
  skipHelpers : Bool
  warnOnFailure : Bool
  globals : List String
  runtimeLibrary : Option String
  deriving DecidableEq, Repr, Inhabited

namespace Flags

def none : Flags := ⟨false, false, false, [], Option.none⟩

end Flags

namespace Options

/-- Names added to a list unless it has them. -/
def addNames (names : List String) (further : List String) : List String :=
  further.foldl (fun names name => if names.contains name then names else names ++ [name]) names

/-- The options with the flags on top: a flag can turn an option on but not off, its names are
added, and its library replaces the other. -/
def withFlags (o : Options) (flags : Flags) : Options :=
  { o with
    skipHelpers := o.skipHelpers || flags.skipHelpers,
    skipAsserts := o.skipAsserts || flags.skipAsserts,
    warnOnFailure := o.warnOnFailure || flags.warnOnFailure,
    globals := addNames o.globals flags.globals,
    runtimeLibrary := flags.runtimeLibrary.getD o.runtimeLibrary }

/-- The options of a configuration, if there is one, and of flags. -/
def resolve (config : Option Config) (flags : Flags) : Options :=
  ((config.getD .empty).resolved.options).withFlags flags

end Options

end TypeGuard
