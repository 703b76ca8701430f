import SchemaForge.Error
import SchemaForge.FileSystem
import SchemaForge.Naming.Encoder
import SchemaForge.Schema.Dependencies
import SchemaForge.Target.Builtin

/-! Languages that code can be generated for, and the registry that finds them by name. -/

namespace SchemaForge

/-- What a language brings along: its rule table, its templates and what it includes. -/
structure Plugin where
  name : String
  draft : Except RuleError RuleDraft
  templates : List (String × String) := []
  supportTemplates : List (String × String) := []
  includes : LanguageRules → Dependencies → List String := fun rules _ => rules.options.stdIncludes

structure Language where
  plugin : Plugin
  rules : LanguageRules
  encoder : Encoder

namespace Target

def sizeInclude? : Target → Option String
  | c => some "stddef.h"
  | cpp => some "cstddef"
  | _ => none

def includes (t : Target) (rules : LanguageRules) (deps : Dependencies) : List String :=
  let std := rules.options.stdIncludes
  match t.sizeInclude? with
  | some extra => if deps.variableArray && !std.contains extra then std ++ [extra] else std
  | none => std

end Target

def Plugin.ofTarget (t : Target) : Plugin where
  name := t.name
  draft := .ok t.draft
  templates := t.templates
  supportTemplates := t.supportTemplates
  includes := t.includes

namespace Language

def name (l : Language) : String :=
  l.rules.language.name

def includes (l : Language) (deps : Dependencies) : List String :=
  l.plugin.includes l.rules deps

def readSource (fs : FileSystem) (p : Path) : Except RuleError RuleSource :=
  match fs.readText p with
  | .ok text => .ok { name := p.text, text }
  | .error kind => .error (.unreadable p.text kind)

def overlayFiles (fs : FileSystem) : RuleDraft → List Path → Except RuleError RuleDraft
  | draft, [] => .ok draft
  | draft, p :: rest => do overlayFiles fs (← draft.overlay (← readSource fs p)) rest

def withRules (plugin : Plugin) (rules : LanguageRules) : Except GenerationError Language :=
  match Encoder.ofLanguage rules with
  | .ok encoder => .ok { plugin, rules, encoder }
  | .error e => .error (.configuration e.message)

def load (fs : FileSystem) (plugin : Plugin) (overlays : List Path) :
    Except GenerationError Language :=
  let rules := do (← overlayFiles fs (← plugin.draft) overlays).load
  match rules with
  | .ok rules => withRules plugin rules
  | .error e => .error (.rules e)

end Language

/-- Plugins in the order of their first registration. -/
structure Registry where
  plugins : List Plugin := []

namespace Registry

def replace (p : Plugin) : List Plugin → List Plugin
  | [] => [p]
  | q :: rest => if q.name = p.name then p :: rest else q :: replace p rest

/-- Adds a plugin; one of the same name gives its place to it. -/
def register (r : Registry) (p : Plugin) : Registry :=
  ⟨replace p r.plugins⟩

def builtin : Registry :=
  (Target.all.map Plugin.ofTarget).foldl register {}

def find? (r : Registry) (name : String) : Option Plugin :=
  r.plugins.find? (·.name = name)

def names (r : Registry) : List String :=
  r.plugins.map (·.name)

/-- Finds a plugin by its name, then by an alias of a built-in language. -/
def get (r : Registry) (name : String) : Except GenerationError Plugin :=
  match r.find? name <|> (Target.ofName? name).bind fun t => r.find? t.name with
  | some p => .ok p
  | none => .error (.rules (.unknownLanguage name r.names))

end Registry

end SchemaForge
