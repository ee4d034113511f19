import Scaffold.Template.Token

namespace Scaffold

namespace Template

/-!
# Templates as trees

The tags of a template are matched into branches and loops.  Tags that are open are kept on a stack,
the innermost first.
-/

inductive Node where
  | text (cs : List Char)
  | print (e : Expr)
  /-- The first branch whose condition holds, or else the last part. -/
  | choose (branches : List (Expr × List Node)) (otherwise : List Node)
  /-- The body once for each item, or the last part when there is none. -/
  | each (binding : Binding) (body otherwise : List Node)

/-- A tag that is open, with the nodes before it, last first. -/
inductive Open where
  | branch (outer : List Node) (done : List (Expr × List Node)) (condition : Expr)
  | otherwise (outer : List Node) (done : List (Expr × List Node))
  | loop (outer : List Node) (binding : Binding)
  | emptyLoop (outer : List Node) (binding : Binding) (body : List Node)

/-- Matches the tags; `nodes` are those of the innermost open tag, last first. -/
def matchTags (stack : List Open) (nodes : List Node) : List Token → Option (List Node)
  | [] => if stack.isEmpty then some nodes.reverse else none
  | .text cs :: rest => matchTags stack (.text cs :: nodes) rest
  | .tag _ _ tag :: rest =>
    match tag, stack with
    | .comment, _ => matchTags stack nodes rest
    | .print e, _ => matchTags stack (.print e :: nodes) rest
    | .ifTag condition, _ => matchTags (.branch nodes [] condition :: stack) [] rest
    | .elifTag condition, .branch outer done previous :: stack =>
      matchTags (.branch outer (done ++ [(previous, nodes.reverse)]) condition :: stack) [] rest
    | .elseTag, .branch outer done previous :: stack =>
      matchTags (.otherwise outer (done ++ [(previous, nodes.reverse)]) :: stack) [] rest
    | .endIf, .branch outer done previous :: stack =>
      matchTags stack (.choose (done ++ [(previous, nodes.reverse)]) [] :: outer) rest
    | .endIf, .otherwise outer done :: stack =>
      matchTags stack (.choose done nodes.reverse :: outer) rest
    | .forTag binding, _ => matchTags (.loop nodes binding :: stack) [] rest
    | .elseTag, .loop outer binding :: stack =>
      matchTags (.emptyLoop outer binding nodes.reverse :: stack) [] rest
    | .endFor, .loop outer binding :: stack =>
      matchTags stack (.each binding nodes.reverse [] :: outer) rest
    | .endFor, .emptyLoop outer binding body :: stack =>
      matchTags stack (.each binding body nodes.reverse :: outer) rest
    | _, _ => none

end Template

/-- A template that was read. -/
structure Template where
  nodes : List Template.Node

namespace Template

/-- The template that a text spells, unless it is malformed. -/
def parse? (source : String) : Option Template := do
  let tokens ← tokens? source
  let nodes ← matchTags [] [] tokens
  return { nodes }

end Template
end Scaffold
