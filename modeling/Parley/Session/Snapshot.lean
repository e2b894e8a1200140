import Parley.Flow.Position
import Parley.Session.Basic

/-!
# Snapshots

What the other side of a webhook is told about a conversation: one member an answer and one a
variable.  Where names coincide, the later entry wins, and variables come after answers.
-/

namespace Parley
namespace Session

/-- The title of the group that asked, or the id of the block if the group is gone. -/
def answerKey (s : Session) (a : Answer) : String :=
  match s.flow.findGroup? a.groupId with
  | some group => group.title
  | none => a.blockId

def answerEntries (s : Session) (r : Record) : Members :=
  r.answers.map fun a => (s.answerKey a, .string a.content)

def variableEntries (vars : List Variable) : Members :=
  vars.filterMap fun v => v.value.map fun value => (v.name, value.toJson)

/-- What has been recorded. -/
def snapshot? (s : Session) : Option Json :=
  s.record.map fun r => .object (Keyed.ofList (s.answerEntries r ++ variableEntries r.vars))

def sampleText : Json := .string "content"

/-- A stand-in for a snapshot where nothing is recorded: the members that there may be. -/
def sample (s : Session) : Json :=
  let asking := s.flow.groups.filter fun g => g.blocks.any fun b => b.isInput
  .object (Keyed.ofList
    (asking.map (fun g => (g.title, sampleText)) ++
      s.vars.map (fun v => (v.name, sampleText))))

def snapshotOrSample (s : Session) : Json := s.snapshot?.getD s.sample

end Session
end Parley
