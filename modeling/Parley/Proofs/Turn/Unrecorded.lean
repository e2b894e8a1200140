import Parley.Proofs.Turn.Recording

/-!
# Turns without a record

A session may be recorded or not.  `Session.unrecorded` takes the record away, and that is all the
difference it makes to a walk, as long as no block on the way looks at the record
(`walk_unrecorded`).
-/

namespace Parley

variable {σ : Type} {services : Services σ} {config : Config}

/-! ## Taking the record away -/

def Session.unrecorded (s : Session) : Session := { s with record := none }

def Outcome.unrecorded (o : Outcome) : Outcome :=
  { o with session := o.session.map Session.unrecorded }

def Turn.unrecorded (t : Turn) : Turn := { t with session := t.session.unrecorded }

namespace Session

theorem rerecording_unrecorded : Rerecording unrecorded where
  flow _ := rfl
  isStreamEnabled _ := rfl
  waitAt _ _ := rfl
  assignOne s a := by
    cases hv : Variable.byId? s.vars a.id with
    | none =>
      have hv' : Variable.byId? s.unrecorded.vars a.id = none := hv
      rw [assignOne_of_none hv, assignOne_of_none hv']
    | some v =>
      have hv' : Variable.byId? s.unrecorded.vars a.id = some v := hv
      rw [assignOne_of_some hv, assignOne_of_some hv']
      rfl

theorem unrecorded_assign (s : Session) (as : List Assignment) :
    s.unrecorded.assign as = (s.assign as).unrecorded :=
  rerecording_unrecorded.assign s as

end Session

theorem Outcome.getD_unrecorded (o : Outcome) (s : Session) :
    o.unrecorded.session.getD s.unrecorded = (o.session.getD s).unrecorded :=
  o.getD_mapped s

theorem WebhookOptions.resume_unrecorded (o : WebhookOptions) (s : Session) (r : WebhookResponse)
    (logs : List Log) : o.resume s.unrecorded r logs = (o.resume s r logs).unrecorded :=
  o.resume_mapped Session.rerecording_unrecorded s r logs

theorem ChatOptions.resume_unrecorded (o : ChatOptions) (s : Session) (content : String)
    (totalTokens : Option Nat) :
    o.resume s.unrecorded content totalTokens = (o.resume s content totalTokens).unrecorded :=
  o.resume_mapped Session.rerecording_unrecorded s content totalTokens

/-! ## Walks -/

/-- No block of the flow tracks. -/
def Flow.Untracked (f : Flow) : Prop :=
  ∀ b ∈ f.groups.flatMap fun g => g.blocks, b.tracks = false

instance (f : Flow) : Decidable f.Untracked :=
  inferInstanceAs (Decidable (∀ b ∈ f.groups.flatMap fun g => g.blocks, b.tracks = false))

/-- A block that does not look at the record does not miss it. -/
theorem Block.overlooks_unrecorded {b : Block} {w : σ} (htracks : b.tracks = false)
    (hsends : ¬ b.SendsSnapshot services w) : b.Overlooks services Session.unrecorded w where
  tracks hb := absurd (htracks.symm.trans hb) Bool.false_ne_true
  sends hb := absurd hb hsends

/-- A walk past blocks that do not look at the record goes the same way without one. -/
theorem walk_unrecorded {f : Flow} (htracks : f.Untracked) (budget : Nat) {s : Session}
    (hs : s.On f) (position : Option Position) (progress : Progress) (w : σ)
    (hsends : ∀ b w₁, (Walk.start position s w).Visits services config f budget b w₁ →
      ¬ b.SendsSnapshot services w₁) :
    walk services config budget position s.unrecorded progress w =
      ((walk services config budget position s progress w).1.unrecorded,
        (walk services config budget position s progress w).2) :=
  walk_mapped Session.rerecording_unrecorded budget hs position progress w fun b w₁ hvisits =>
    Block.overlooks_unrecorded (htracks b hvisits.mem) (hsends b w₁ hvisits)

end Parley
