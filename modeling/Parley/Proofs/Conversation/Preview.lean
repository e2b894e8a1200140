import Mathlib.Data.List.Induction
import Parley.Proofs.Conversation.Record
import Parley.Proofs.Turn.Unrecorded

/-!
# Previews

A preview is a conversation that is not recorded.  Next to the recorded one, with the same replies
and in the same outside world, it says and asks the same at every turn: `recording_only_observes`.
The turns are compared with the record taken away, which is kept by a reply (`resume_unrecorded`)
and by the walk that it sets off (`walk_unrecorded`), and so by induction on the replies.
-/

namespace Parley

variable {σ : Type} {services : Services σ} {config : Config}

/-! ## Replies -/

def Resumption.unrecorded : Resumption → Resumption
  | .retry turn => .retry turn.unrecorded
  | .proceed s logs edgeId => .proceed s.unrecorded logs edgeId

theorem Resumption.ofOutcome_unrecorded (s : Session) (o : Outcome) :
    ofOutcome s.unrecorded o.unrecorded = (ofOutcome s o).unrecorded := by
  rw [ofOutcome, o.getD_unrecorded]
  rfl

theorem Input.resume_unrecorded (s : Session) (groupId blockId reply : String) (i : Input) :
    i.resume s.unrecorded groupId blockId reply =
      (i.resume s groupId blockId reply).unrecorded := by
  have hvars : s.unrecorded.vars = s.vars := rfl
  rw [resume, resume, hvars]
  cases i.accept? (i.shownItems s.vars) reply with
  | none => rfl
  | some accepted =>
    have hassignments : i.assignments s.unrecorded accepted.content =
        i.assignments s accepted.content := rfl
    simp only [save, hassignments, s.unrecorded_assign]
    rfl

theorem Block.resume_unrecorded (s : Session) (groupId reply : String) (b : Block) :
    b.resume s.unrecorded groupId reply = (b.resume s groupId reply).unrecorded := by
  obtain ⟨id, edgeId, kind⟩ := b
  cases kind with
  | start label => rfl
  | bubble bubble => rfl
  | input input => exact input.resume_unrecorded s groupId id reply
  | logic l =>
    cases l with
    | setVariable o =>
      show Resumption.proceed (o.resume s.unrecorded reply) [] none =
        .proceed (o.resume s reply).unrecorded [] none
      rw [SetVariable.resume, SetVariable.resume]
      cases o.variableId with
      | none => rfl
      | some id => exact congrArg (Resumption.proceed · [] none) (s.unrecorded_assign _)
    | condition branches => rfl
    | redirect o => rfl
    | code o => rfl
  | integration i =>
    cases i with
    | webhook label block =>
      show Resumption.ofOutcome _ (block.options.resume s.unrecorded _ []) =
        (Resumption.ofOutcome s (block.options.resume s _ [])).unrecorded
      rw [block.options.resume_unrecorded, Resumption.ofOutcome_unrecorded]
    | chat o =>
      show Resumption.ofOutcome _ (o.resume s.unrecorded reply none) =
        (Resumption.ofOutcome s (o.resume s reply none)).unrecorded
      rw [o.resume_unrecorded, Resumption.ofOutcome_unrecorded]
    | analytics options => rfl

theorem proceed_unrecorded {f : Flow} (hf : f.Untracked) {s : Session} (hs : s.On f)
    (reply : String) (w : σ)
    (hsends : ∀ anchor place after logs edgeId, s.WaitsAt anchor place →
      place.block.resume s place.group.id reply = .proceed after logs edgeId →
      ∀ b w₁, (Walk.start (place.next? after.flow edgeId) (after.waitAt none) w).Visits services
        config f config.maxSteps b w₁ → ¬ b.SendsSnapshot services w₁) :
    proceed services config s.unrecorded reply w =
      ((proceed services config s reply w).1.map Turn.unrecorded,
        (proceed services config s reply w).2) := by
  have hanchor : s.unrecorded.anchor = s.anchor := rfl
  have hflow : s.unrecorded.flow = s.flow := rfl
  rw [proceed, proceed, hanchor, hflow]
  cases hwaits : s.anchor with
  | none => rfl
  | some anchor =>
    cases hfound : s.flow.findBlock? anchor.blockId with
    | none =>
      simp only [hfound]
      rfl
    | some place =>
      have hresumes := place.block.resumes s place.group.id reply
      simp only [hfound, place.block.resume_unrecorded]
      cases hresume : place.block.resume s place.group.id reply with
      | retry turn => rfl
      | proceed after logs edgeId =>
        rw [hresume] at hresumes
        have hafter : after.On f := (Session.kept_on f).resumes hs hresumes
        have hwalk := walk_unrecorded hf config.maxSteps (hafter.waitAt none)
          (place.next? after.flow edgeId) (.ofLogs logs) w
          (hsends anchor place after logs edgeId ⟨hwaits, hfound⟩ hresume)
        exact congrArg (fun r : Turn × σ => ((Except.ok r.1 : Except Error Turn), r.2)) hwalk

/-! ## Conversations -/

/-- The same beginning of a conversation that is not recorded. -/
def StartParams.preview (params : StartParams) : StartParams := { params with recordId := none }

theorem startFlow_unrecorded {f : Flow} (hf : f.Untracked) (params : StartParams) (w : σ)
    (hsends : ∀ position, f.startPosition params.startGroupId = .ok position →
      ∀ b w₁, (Walk.start position (.opening f params) w).Visits services config f config.maxSteps
        b w₁ → ¬ b.SendsSnapshot services w₁) :
    startFlow services config params.preview f w =
      ((startFlow services config params f w).1.map Turn.unrecorded,
        (startFlow services config params f w).2) := by
  have hopening : Session.opening f params.preview = (Session.opening f params).unrecorded := rfl
  have hgroup : params.preview.startGroupId = params.startGroupId := rfl
  refine startFlow_mapped Session.rerecording_unrecorded hgroup hopening w ?_
  intro position hposition b w₁ hvisits
  exact Block.overlooks_unrecorded (hf b hvisits.mem) (hsends position hposition b w₁ hvisits)

/-- The turn after one more reply; a conversation that has failed does not go on. -/
def continued (services : Services σ) (config : Config) (before : Except Error Turn)
    (reply : String) : StateM σ (Except Error Turn) :=
  match before with
  | .error e => pure (.error e)
  | .ok t => proceed services config t.session reply

/-- The last turn of the conversation with these replies. -/
def converse (services : Services σ) (config : Config) (params : StartParams) (f : Flow)
    (replies : List String) : StateM σ (Except Error Turn) :=
  replies.foldl (fun conversation reply => conversation >>= (continued services config · reply))
    (startFlow services config params f)

theorem converse_concat (params : StartParams) (f : Flow) (replies : List String)
    (reply : String) :
    converse services config params f (replies ++ [reply]) =
      converse services config params f replies >>= (continued services config · reply) := by
  rw [converse, List.foldl_append]
  rfl

theorem reached_of_converse {params : StartParams} {f : Flow} {replies : List String} {w w' : σ}
    {t : Turn} (h : converse services config params f replies w = (.ok t, w')) :
    Reached services config f t := by
  induction replies using List.reverseRecOn generalizing t w' with
  | nil => exact .start params w (congrArg Prod.fst h)
  | append_singleton earlier reply ih =>
    obtain ⟨before, w₁, hbefore⟩ :
        ∃ before w₁, converse services config params f earlier w = (before, w₁) := ⟨_, _, rfl⟩
    rw [converse_concat, bind_of_result hbefore] at h
    cases before with
    | error e => exact nomatch h
    | ok before => exact .reply reply w₁ (ih hbefore) (congrArg Prod.fst h)

/-- Some turn of the conversation with these replies visits the block in the world `w₁`. -/
inductive Visits (services : Services σ) (config : Config) (params : StartParams) (f : Flow)
    (w : σ) (replies : List String) (b : Block) (w₁ : σ) : Prop
  | first {position : Option Position}
      (hstart : f.startPosition params.startGroupId = .ok position)
      (hvisits : (Walk.start position (.opening f params) w).Visits services config f
        config.maxSteps b w₁)
  | later {earlier rest : List String} {reply : String} {t : Turn} {w' : σ} {anchor : Anchor}
      {place : Place} {after : Session} {logs : List Log} {edgeId : Option String}
      (hreplies : earlier ++ reply :: rest = replies)
      (hturn : converse services config params f earlier w = (.ok t, w'))
      (hwaits : t.session.WaitsAt anchor place)
      (hresume : place.block.resume t.session place.group.id reply = .proceed after logs edgeId)
      (hvisits : (Walk.start (place.next? after.flow edgeId) (after.waitAt none) w').Visits
        services config f config.maxSteps b w₁)

theorem Visits.append {params : StartParams} {f : Flow} {w w₁ : σ} {replies : List String}
    {b : Block} (h : Visits services config params f w replies b w₁) (more : List String) :
    Visits services config params f w (replies ++ more) b w₁ := by
  cases h with
  | first hstart hvisits => exact .first hstart hvisits
  | @later earlier rest reply _ _ _ _ _ _ _ hreplies hturn hwaits hresume hvisits =>
    have hall : earlier ++ reply :: (rest ++ more) = replies ++ more := by
      rw [← hreplies, List.append_assoc, List.cons_append]
    exact .later hall hturn hwaits hresume hvisits

theorem Visits.mem {params : StartParams} {f : Flow} {w w₁ : σ} {replies : List String} {b : Block}
    (h : Visits services config params f w replies b w₁) :
    b ∈ f.groups.flatMap fun g => g.blocks := by
  cases h with
  | first _ hvisits => exact hvisits.mem
  | later _ _ _ _ hvisits => exact hvisits.mem

/-- Whatever is answered, a preview comes to the turns of the recorded conversation without the
record: the same status, reply, anchor and variables.  It also leaves the same outside world.  The
flow may not track, and no webhook on the way may be called with the snapshot. -/
theorem recording_only_observes {f : Flow} (hf : f.Untracked) (params : StartParams)
    (replies : List String) (w : σ)
    (hsends : ∀ b w₁, Visits services config params f w replies b w₁ →
      ¬ b.SendsSnapshot services w₁) :
    converse services config params.preview f replies w =
      ((converse services config params f replies w).1.map Turn.unrecorded,
        (converse services config params f replies w).2) := by
  induction replies using List.reverseRecOn with
  | nil =>
    exact startFlow_unrecorded hf params w fun position hposition b w₁ hvisits =>
      hsends b w₁ (.first hposition hvisits)
  | append_singleton earlier reply ih =>
    have hearlier := ih fun b w₁ hvisits => hsends b w₁ (hvisits.append [reply])
    obtain ⟨before, w', hbefore⟩ :
        ∃ before w', converse services config params f earlier w = (before, w') := ⟨_, _, rfl⟩
    rw [hbefore] at hearlier
    rw [converse_concat, converse_concat, bind_of_result hbefore, bind_of_result hearlier]
    cases before with
    | error e => rfl
    | ok t =>
      refine proceed_unrecorded hf (reached_of_converse hbefore).on reply w' ?_
      intro anchor place after logs edgeId hwaits hresume b w₁ hvisits
      exact hsends b w₁ (.later rfl hbefore hwaits hresume hvisits)

/-- A flow that asks for a mood, and then looks at the sky. -/
def Flow.morning : Flow :=
  { Flow.sky with
    groups :=
      [{ id := "waking", title := ""
         blocks :=
          [{ id := "mood", outgoingEdgeId := none, kind := .input (.make .text) },
           .sky false] }] }

theorem morning_is_only_observed :
    Flow.morning.Untracked ∧
    (∀ b w, Visits .sunny .standard .recorded .morning () ["Fine"] b w →
      ¬ b.SendsSnapshot .sunny w) ∧
    ∃ t, converse .sunny .standard .recorded .morning ["Fine"] () = (.ok t, ()) ∧
      t.session.record = some
        { id := "record", vars := [{ id := "sky", name := "Sky", value := some (.text "clear") }]
          answers :=
            [{ blockId := "mood", groupId := "waking", variableId := none, content := "Fine" }]
          hasStartedInput := true } ∧
      converse .sunny .standard StartParams.recorded.preview .morning ["Fine"] () =
        (.ok t.unrecorded, ()) := by
  have hf : Flow.morning.Untracked := by decide
  have hsends : ∀ b w, Visits .sunny .standard .recorded .morning () ["Fine"] b w →
      ¬ b.SendsSnapshot .sunny w := by
    rintro b w hvisits ⟨label, block, hk, webhook, hfound, -, hbody⟩
    rcases List.mem_cons.mp hvisits.mem with rfl | hmem
    · exact nomatch hk
    · obtain rfl := List.mem_singleton.mp hmem
      cases hk
      cases hfound
      exact absurd hbody (by decide)
  have hpreview := recording_only_observes hf .recorded ["Fine"] () hsends
  refine ⟨hf, hsends, _, rfl, ?_, hpreview⟩
  decide +kernel

end Parley
