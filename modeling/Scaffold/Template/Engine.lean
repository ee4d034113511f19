import Scaffold.Template.Library

namespace Scaffold
namespace Template

/-!
# Engines

An engine reads templates and renders them.  It holds the sources that were loaded into it, so that
a template may refer to others, and a template may ask it for random numbers.

The standard engine knows the tags, the expressions and the filters that the bundled templates are
written with.  What is said of jobs that render is said of every engine.
-/

/-- The sources that were loaded, each under its name, the last one first. -/
abbrev Sources := List (String × String)

/-- What reads templates and renders them; a failure is given as what is said of it. -/
structure Engine where
  /-- Whether the last of some sources is a template, beside the others. -/
  accept : Sources → Except String Unit
  /-- The text of the template of some name for the given data, and how many random numbers have
  been taken after it, by how many have been taken before. -/
  render : Sources → String → Json.Value → Nat → Except String String × Nat

namespace Engine

/-- Reads the template `name` from a directory, and holds it besides the sources that are held. -/
def load (engine : Engine) (held : Sources) (directory name : String) : Job Sources := do
  let text ← Template.source directory name
  let sources := (name, text) :: held
  Job.ofExcept ((engine.accept sources).mapError (.render name))
  return sources

/-- Renders one of the templates that are held. -/
def print (engine : Engine) (held : Sources) (name : String) (data : Json.Value) : Job String :=
  Job.drawing fun draws =>
    let printed := engine.render held name data draws
    (printed.1.mapError (.render name), printed.2)

/-- The engine for templates that stand alone and ask for no random numbers. -/
def standard : Engine where
  accept
    | [] => .ok ()
    | (name, text) :: _ => (readAs name text).map fun _ => ()
  render held name data draws :=
    match held.lookup name with
    | none => (.error ("Template '" ++ name ++ "' not found"), draws)
    | some text => (readAs name text >>= fun template => template.print name data, draws)

end Engine
end Template
end Scaffold
