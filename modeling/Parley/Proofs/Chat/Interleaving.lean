import Parley.Chat.Messages

/-!
# Two sides in turns

A message of a dialogue has a position among those of its side, and the messages are in the order
of these positions.  At the same position the side comes first that has more to say, or the
assistant if neither has (`ChatPart.InTurns`).

The reason is that the side that follows is one message behind whenever it speaks
(`ChatPart.one_behind_of_weave`), since it is taken from the shorter list.
-/

namespace Parley
namespace ChatPart

/-- What is said in this role, in order. -/
def said (role : ChatRole) (ms : List ChatMessage) : List String :=
  (ms.filter fun m => m.role = role).map (·.content)

/-- The side that comes first. -/
def leader (user assistant : List String) : ChatRole :=
  if assistant.length < user.length then .user else .assistant

/-- The messages are those of the two sides, and they take turns. -/
structure InTurns (user assistant : List String) (ms : List ChatMessage) : Prop where
  sides : ∀ m ∈ ms, m.role = .user ∨ m.role = .assistant
  bySide : said .user ms = user ∧ said .assistant ms = assistant
  /-- Of two messages, the second one is at a later position, or at the same one and of the side
  that follows. -/
  order : ∀ front m between n back, ms = front ++ m :: (between ++ n :: back) →
    let i := (said m.role front).length
    let j := (said n.role (front ++ m :: between)).length
    i < j ∨ i = j ∧ m.role = leader user assistant ∧ n.role ≠ leader user assistant

section Said

theorem said_cons_own (role : ChatRole) (content : String) (ms : List ChatMessage) :
    said role ({ role, content } :: ms) = content :: said role ms := by
  rw [said, List.filter_cons, if_pos (decide_eq_true rfl), List.map_cons, said]

theorem said_cons_other {role other : ChatRole} (h : other ≠ role) (content : String)
    (ms : List ChatMessage) : said role ({ role := other, content } :: ms) = said role ms := by
  rw [said, List.filter_cons, if_neg (by simpa using h), said]

theorem said_append (role : ChatRole) (ms ns : List ChatMessage) :
    said role (ms ++ ns) = said role ms ++ said role ns := by
  rw [said, List.filter_append, List.map_append, said, said]

/-- Whoever speaks has said more afterwards. -/
theorem length_said_lt (m : ChatMessage) (front between : List ChatMessage) :
    (said m.role front).length < (said m.role (front ++ m :: between)).length := by
  rw [said_append, said_cons_own m.role m.content between, List.length_append, List.length_cons]
  omega

theorem length_said_le (role : ChatRole) (ms ns : List ChatMessage) :
    (said role ms).length ≤ (said role (ms ++ ns)).length := by
  rw [said_append, List.length_append]
  omega

end Said

section Weave

variable {first second : ChatRole} {xs ys : List String} {m : ChatMessage}

theorem role_of_mem_weave (h : m ∈ weave first second xs ys) :
    m.role = first ∨ m.role = second := by
  induction xs generalizing ys with
  | nil => exact absurd h List.not_mem_nil
  | cons x xs ih =>
    cases ys with
    | nil =>
      rcases List.mem_cons.mp h with rfl | h
      · exact Or.inl rfl
      · exact ih h
    | cons y ys =>
      rcases List.mem_cons.mp h with rfl | h
      · exact Or.inl rfl
      · rcases List.mem_cons.mp h with rfl | h
        · exact Or.inr rfl
        · exact ih h

theorem role_of_mem_weave_nil (h : m ∈ weave first second xs []) : m.role = first := by
  induction xs with
  | nil => exact absurd h List.not_mem_nil
  | cons x xs ih =>
    rcases List.mem_cons.mp h with rfl | h
    · rfl
    · exact ih h

theorem said_weave_first (hne : first ≠ second) (xs ys : List String) :
    said first (weave first second xs ys) = xs := by
  induction xs generalizing ys with
  | nil => rfl
  | cons x xs ih =>
    cases ys with
    | nil => rw [weave, said_cons_own, ih]
    | cons y ys => rw [weave, said_cons_own, said_cons_other hne.symm, ih]

/-- Nothing of the second side is lost, as long as the first one has as much to say. -/
theorem said_weave_second (hne : first ≠ second) (hle : ys.length ≤ xs.length) :
    said second (weave first second xs ys) = ys := by
  induction xs generalizing ys with
  | nil => exact (List.length_eq_zero_iff.mp (Nat.le_zero.mp hle)).symm
  | cons x xs ih =>
    cases ys with
    | nil => rw [weave, said_cons_other hne, ih (Nat.zero_le _)]
    | cons y ys =>
      rw [weave, said_cons_other hne, said_cons_own, ih (Nat.le_of_succ_le_succ hle)]

/-- When the second side speaks, the first one is one message ahead. -/
theorem one_behind_of_weave (hne : first ≠ second) {front back : List ChatMessage}
    (h : weave first second xs ys = front ++ m :: back) (hm : m.role = second) :
    (said first front).length = (said second front).length + 1 := by
  induction xs generalizing ys front with
  | nil => exact absurd h.symm (List.append_ne_nil_of_right_ne_nil _ (List.cons_ne_nil m back))
  | cons x xs ih =>
    cases ys with
    | nil =>
      -- The second side has nothing more to say.
      have hmem : m ∈ weave first second (x :: xs) [] :=
        h ▸ List.mem_append_right _ List.mem_cons_self
      exact absurd ((role_of_mem_weave_nil hmem).symm.trans hm) hne
    | cons y ys =>
      rw [weave] at h
      rcases front with _ | ⟨a, _ | ⟨b, front⟩⟩
      · obtain ⟨rfl, -⟩ := List.cons.inj h
        exact absurd hm hne
      · obtain ⟨rfl, -⟩ := List.cons.inj h
        rw [said_cons_own, said_cons_other hne]
        rfl
      · obtain ⟨rfl, htail⟩ := List.cons.inj h
        obtain ⟨rfl, hrest⟩ := List.cons.inj htail
        rw [said_cons_own, said_cons_other hne.symm, said_cons_other hne, said_cons_own,
          List.length_cons, List.length_cons, ih hrest]

theorem order_of_weave (hne : first ≠ second) {front between back : List ChatMessage}
    {n : ChatMessage} (h : weave first second xs ys = front ++ m :: (between ++ n :: back)) :
    let i := (said m.role front).length
    let j := (said n.role (front ++ m :: between)).length
    i < j ∨ i = j ∧ m.role = first ∧ n.role ≠ first := by
  intro i j
  have hlater : weave first second xs ys = (front ++ m :: between) ++ n :: back := by
    rw [h, List.append_assoc, List.cons_append]
  have hm : m.role = first ∨ m.role = second :=
    role_of_mem_weave (h ▸ List.mem_append_right _ List.mem_cons_self)
  have hn : n.role = first ∨ n.role = second :=
    role_of_mem_weave (hlater ▸ List.mem_append_right _ List.mem_cons_self)
  have hmore : i < (said m.role (front ++ m :: between)).length := length_said_lt m front between
  by_cases hsame : n.role = m.role
  · exact Or.inl (by rw [← hsame] at hmore; exact hmore)
  · rcases hm with hm | hm
    · have hn : n.role = second := hn.resolve_left fun e => hsame (e.trans hm.symm)
      have hbehind := one_behind_of_weave hne hlater hn
      rw [hm, hbehind, ← hn] at hmore
      rcases Nat.lt_or_eq_of_le (Nat.le_of_lt_succ hmore) with hlt | heq
      · exact Or.inl hlt
      · exact Or.inr ⟨heq, hm, fun e => hne (e.symm.trans hn)⟩
    · have hn : n.role = first := hn.resolve_right fun e => hsame (e.trans hm.symm)
      have hbehind := one_behind_of_weave hne h hm
      have hle := length_said_le first front (m :: between)
      left
      show (said m.role front).length < (said n.role (front ++ m :: between)).length
      rw [hm, hn]
      omega

end Weave

theorem inTurns_interleave (user assistant : List String) :
    InTurns user assistant (interleave user assistant) := by
  have hne : ChatRole.user ≠ .assistant := by decide
  by_cases h : assistant.length < user.length
  · have hleader : leader user assistant = .user := if_pos h
    rw [interleave, if_pos h]
    exact
      { sides := fun m hm => role_of_mem_weave hm
        bySide := ⟨said_weave_first hne _ _, said_weave_second hne (Nat.le_of_lt h)⟩
        order := fun front m between n back heq => hleader ▸ order_of_weave hne heq }
  · have hleader : leader user assistant = .assistant := if_neg h
    rw [interleave, if_neg h]
    exact
      { sides := fun m hm => (role_of_mem_weave hm).symm
        bySide := ⟨said_weave_second hne.symm (Nat.le_of_not_lt h), said_weave_first hne.symm _ _⟩
        order := fun front m between n back heq => hleader ▸ order_of_weave hne.symm heq }

end ChatPart
end Parley
