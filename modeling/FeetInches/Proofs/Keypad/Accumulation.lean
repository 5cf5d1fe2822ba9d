import FeetInches.Proofs.Expression.Display
import FeetInches.Proofs.Keypad.Tracking
/-!
What the pads show of an expression. An operator ends an operand but clears no pad, so on each pad
the digits of an operand go on from those of the earlier ones.
-/

namespace FeetInches

namespace Key

def grow (key : Key) (pad : LengthPad) (n : Int) : Int :=
  match key with
  | .digit own d => if own = pad then n * 10 + d.val else n
  | _ => n

theorem grow_le_iff (key : Key) (pad : LengthPad) {m n : Int} :
    key.grow pad m ≤ key.grow pad n ↔ m ≤ n := by
  cases key with
  | digit own d =>
      simp only [grow]
      split <;> omega
  | _ => exact Iff.rfl

theorem grow_inj (key : Key) (pad : LengthPad) {m n : Int} :
    key.grow pad m = key.grow pad n ↔ m = n := by
  rw [Int.le_antisymm_iff, grow_le_iff, grow_le_iff, ← Int.le_antisymm_iff]

def write (key : Key) (text : Text) : Text :=
  match key with
  | .scalarDigit d => typeDigit text d
  | .point => typePoint text
  | _ => text

end Key

namespace TypedLength

@[simp] theorem count_empty (pad : LengthPad) : count {} pad = 0 := by
  cases pad <;> rfl

theorem Tidy.count_nonneg {l : TypedLength} (tidy : l.Tidy) (pad : LengthPad) :
    0 ≤ l.count pad := by
  cases pad
  · exact tidy.feet
  · exact tidy.inches

end TypedLength

namespace Expression

variable {terms front : Expression} {log : List Key} {key : Key} {pad : LengthPad} {whole : Int}

theorem ofKeys_numberKey (log : List Key) {key : Key} {type : Text → Text}
    (presses : ∀ t : Typing, t.press key = t.onNumber type) :
    ∃ front text, ofKeys (log ++ [key]) = front ++ [.typedNumber (type text)] ∧
      (ofKeys log = front ∧ text = [] ∨ ofKeys log = front ++ [.typedNumber text]) := by
  rw [ofKeys_eq_terms, ofKeys_eq_terms, Typing.ofKeys_concat, presses]
  rcases Typing.ofKeys log with ⟨complete, _ | ⟨l⟩ | ⟨text⟩⟩
  · exact ⟨Typing.terms ⟨complete, none⟩, [], rfl, Or.inl ⟨rfl, rfl⟩⟩
  · exact ⟨complete ++ [.typedLength l], [], rfl, Or.inl ⟨rfl, rfl⟩⟩
  · exact ⟨complete, text, rfl, Or.inr rfl⟩

/-! Counts of feet and inches -/

def Unused (terms : Expression) (pad : LengthPad) : Prop :=
  ∀ l, .typedLength l ∈ terms → l.count pad = 0

theorem unused_append {back : Expression} :
    Unused (front ++ back) pad ↔ Unused front pad ∧ Unused back pad := by
  simp [Unused, or_imp, forall_and]

theorem unused_length {l : TypedLength} : Unused [.typedLength l] pad ↔ l.count pad = 0 := by
  simp [Unused]

theorem unused_concat_other {term : Term} (other : ∀ l, term ≠ .typedLength l) :
    Unused (front ++ [term]) pad ↔ Unused front pad := by
  rw [unused_append, and_iff_left]
  intro l member
  exact absurd (List.mem_singleton.mp member).symm (other l)

/-- The pad shows the count of the length being typed, or more if an earlier length has something
there. -/
def ShowsCount (terms : Expression) (pad : LengthPad) (whole : Int) : Prop :=
  terms.openLength.count pad ≤ whole ∧
    (whole = terms.openLength.count pad ↔ Unused terms.beforeLength pad)

theorem showsCount_concat {l : TypedLength} :
    ShowsCount (front ++ [.typedLength l]) pad whole ↔
      l.count pad ≤ whole ∧ (whole = l.count pad ↔ Unused front pad) := by
  rw [ShowsCount, openLength_concat, beforeLength_concat]

theorem showsCount_concat_other {term : Term} (other : ∀ l, term ≠ .typedLength l) :
    ShowsCount (front ++ [term]) pad whole ↔ 0 ≤ whole ∧ (whole = 0 ↔ Unused front pad) := by
  have fresh : openLength (front ++ [term]) = {} ∧
      beforeLength (front ++ [term]) = front ++ [term] := by
    cases term with
    | typedLength l => exact absurd rfl (other l)
    | _ => simp [openLength, beforeLength]
  rw [ShowsCount, fresh.1, fresh.2, TypedLength.count_empty, unused_concat_other other]

theorem ShowsCount.ended (shows : ShowsCount terms pad whole)
    (tidy : ∀ term ∈ terms, term.Tidy) : 0 ≤ whole ∧ (whole = 0 ↔ Unused terms pad) := by
  obtain ⟨least, same⟩ := shows
  rcases beforeLength_cases terms with ⟨before, empty⟩ | typed
  · rw [empty, TypedLength.count_empty] at least same
    rw [before] at same
    exact ⟨least, same⟩
  · have nonneg := TypedLength.Tidy.count_nonneg (tidy _ (mem_of_beforeLength typed)) pad
    rw [typed, unused_append, unused_length, ← same]
    omega

theorem ShowsCount.lengthKey (shows : ShowsCount (ofKeys log) pad whole)
    {type : TypedLength → TypedLength} (presses : ∀ t : Typing, t.press key = t.onLength type)
    (counts : ∀ l, (type l).count pad = key.grow pad (l.count pad)) :
    ShowsCount (ofKeys (log ++ [key])) pad (key.grow pad whole) := by
  rw [ofKeys_lengthKey log presses, showsCount_concat, counts, key.grow_le_iff, key.grow_inj]
  exact shows

theorem ShowsCount.numberKey (shows : ShowsCount (ofKeys log) pad whole) {type : Text → Text}
    (presses : ∀ t : Typing, t.press key = t.onNumber type) :
    ShowsCount (ofKeys (log ++ [key])) pad whole := by
  have ended := shows.ended (Typing.tidy_ofKeys log)
  obtain ⟨front, text, pressed, ⟨same, _⟩ | same⟩ := ofKeys_numberKey log presses
  · rw [pressed, showsCount_concat_other (by simp), ← same]
    exact ended
  · rw [same, unused_concat_other (by simp)] at ended
    rw [pressed, showsCount_concat_other (by simp)]
    exact ended

theorem ShowsCount.operatorKey (shows : ShowsCount (ofKeys log) pad whole)
    (operator : key.isOperator) : ShowsCount (ofKeys (log ++ [key])) pad whole := by
  rw [ofKeys_operator log operator, showsCount_concat_other (by simp)]
  exact shows.ended (Typing.tidy_ofKeys log)

theorem ShowsCount.press (shows : ShowsCount (ofKeys log) pad whole)
    (plain : key.isControl = false) :
    ShowsCount (ofKeys (log ++ [key])) pad (key.grow pad whole) := by
  cases key with
  | digit own d =>
      refine shows.lengthKey (fun t => rfl) fun l => ?_
      cases own <;> cases pad <;> rfl
  | fraction own literal =>
      refine shows.lengthKey (fun t => rfl) fun l => ?_
      cases pad <;> rfl
  | scalarDigit d => exact shows.numberKey fun t => rfl
  | point => exact shows.numberKey fun t => rfl
  | operator op => exact shows.operatorKey rfl
  | equals => exact shows.operatorKey rfl
  | control command => cases plain

/-! Texts of numbers -/

end Expression

/-- The text of a number after another one on the same pad, where a second point is left out. -/
def joinNumber (shown text : Text) : Text :=
  shown ++ if shown.contains (.char '.') then text.filter (· ≠ .char '.') else text

theorem joinNumber_nil (shown : Text) : joinNumber shown [] = shown := by
  simp [joinNumber]

theorem nil_joinNumber (text : Text) : joinNumber [] text = text := by
  simp [joinNumber]

theorem joinNumber_write (shown text : Text) (key : Key) :
    joinNumber shown (key.write text) = key.write (joinNumber shown text) := by
  cases key with
  | scalarDigit d =>
      unfold joinNumber Key.write typeDigit
      split <;> simp [digitChar_ne_point]
  | point =>
      unfold joinNumber Key.write typePoint
      by_cases before : shown.contains (.char '.')
      · by_cases inside : text.contains (.char '.') <;> simp_all
      · by_cases inside : text.contains (.char '.') <;> simp_all
  | _ => rfl

def lonePoint : Text := [.char '.']

theorem eq_lonePoint {text : Text} (only : text.filter (· ≠ .char '.') = []) (nonempty : text ≠ [])
    (points : text.count (.char '.') ≤ 1) : text = lonePoint := by
  have all : ∀ c ∈ text, .char '.' = c := by
    intro c member
    have point : c = .char '.' := by simpa using List.filter_eq_nil_iff.mp only c member
    exact point.symm
  rw [List.count_eq_length.mpr all] at points
  obtain ⟨c, rfl⟩ : ∃ c, text = [c] := by
    have positive := List.length_pos_iff.mpr nonempty
    exact List.length_eq_one_iff.mp (by omega)
  rw [← all c (by simp), lonePoint]

/-- A pad that shows something shows a number after it as it is only where both begin with a point
and nothing else was there. -/
theorem joinNumber_eq_right_iff {shown text : Text} (tidy : TidyNumber text) :
    joinNumber shown text = text ↔
      shown = [] ∨ shown = lonePoint ∧ text.head? = some (.char '.') := by
  by_cases before : shown.contains (.char '.')
  · have nonempty : shown ≠ [] := by
      rintro rfl
      simp at before
    rw [joinNumber, if_pos before, or_iff_right nonempty]
    constructor
    · intro same
      -- equal texts have as many points, and the same other characters
      have points := congrArg (List.count (.char '.')) same
      have others := congrArg (List.filter (· ≠ .char '.')) same
      rw [List.filter_append, List.filter_filter] at others
      rw [List.count_append] at points
      have lone : shown = lonePoint := by
        have only : shown.filter (· ≠ .char '.') = [] := by simpa using others
        have most := tidy.points
        exact eq_lonePoint only nonempty (by omega)
      rw [lone] at same
      exact ⟨lone, by rw [← same]; rfl⟩
    · rintro ⟨rfl, head⟩
      obtain ⟨rest, rfl⟩ := List.head?_eq_some_iff.mp head
      have points := tidy.points
      rw [List.count_cons_self] at points
      have pointless : ∀ c ∈ rest, c ≠ .char '.' := by
        intro c member same
        have := List.count_pos_iff.mpr (same ▸ member)
        omega
      simpa [lonePoint] using pointless
  · rw [joinNumber, if_neg before]
    constructor
    · intro same
      exact Or.inl (by simpa using same)
    · rintro (rfl | ⟨rfl, _⟩)
      · rfl
      · exact absurd rfl before

/-- A lone point is left by lone points only. -/
theorem joinNumber_eq_lonePoint_iff {shown text : Text} (tidy : TidyNumber text) :
    joinNumber shown text = lonePoint ↔ (shown = [] ∨ shown = lonePoint) ∧ text = lonePoint := by
  constructor
  · intro joined
    unfold joinNumber at joined
    split at joined
    · rename_i before
      rcases List.append_eq_singleton_iff.mp joined with ⟨rfl, _⟩ | ⟨lone, only⟩
      · simp at before
      · exact ⟨Or.inr lone, eq_lonePoint only tidy.nonempty tidy.points⟩
    · rename_i before
      rcases List.append_eq_singleton_iff.mp joined with ⟨empty, lone⟩ | ⟨rfl, _⟩
      · exact ⟨Or.inl empty, lone⟩
      · simp at before
  · rintro ⟨rfl | rfl, rfl⟩ <;> decide

namespace Expression

/-- What the numbers of an expression leave on the pad for numbers. -/
def numbersTyped (terms : Expression) : Text :=
  terms.foldl (fun shown term =>
    match term with
    | .typedNumber text => joinNumber shown text
    | _ => shown) []

theorem numbersTyped_concat_number (front : Expression) (text : Text) :
    numbersTyped (front ++ [.typedNumber text]) = joinNumber (numbersTyped front) text := by
  simp [numbersTyped]

theorem numbersTyped_concat_other (front : Expression) {term : Term}
    (other : ∀ text, term ≠ .typedNumber text) :
    numbersTyped (front ++ [term]) = numbersTyped front := by
  cases term with
  | typedNumber text => exact absurd rfl (other text)
  | _ => simp [numbersTyped]

theorem numbersTyped_press (plain : key.isControl = false) :
    numbersTyped (ofKeys (log ++ [key])) = key.write (numbersTyped (ofKeys log)) := by
  have number (presses : ∀ t : Typing, t.press key = t.onNumber key.write) :
      numbersTyped (ofKeys (log ++ [key])) = key.write (numbersTyped (ofKeys log)) := by
    obtain ⟨front, text, pressed, ⟨same, rfl⟩ | same⟩ := ofKeys_numberKey log presses
    · rw [pressed, numbersTyped_concat_number, joinNumber_write, joinNumber_nil, same]
    · rw [pressed, numbersTyped_concat_number, joinNumber_write, same, numbersTyped_concat_number]
  have length {type : TypedLength → TypedLength}
      (presses : ∀ t : Typing, t.press key = t.onLength type) :
      numbersTyped (ofKeys (log ++ [key])) = numbersTyped (ofKeys log) := by
    rw [ofKeys_lengthKey log presses, numbersTyped_concat_other _ (by simp)]
    rcases beforeLength_cases (ofKeys log) with ⟨same, _⟩ | typed
    · rw [same]
    · conv_rhs => rw [typed, numbersTyped_concat_other _ (by simp)]
  have operator (operator : key.isOperator) :
      numbersTyped (ofKeys (log ++ [key])) = numbersTyped (ofKeys log) := by
    rw [ofKeys_operator log operator, numbersTyped_concat_other _ (by simp)]
  cases key with
  | digit pad d => exact length fun t => rfl
  | fraction pad literal => exact length fun t => rfl
  | scalarDigit d => exact number fun t => rfl
  | point => exact number fun t => rfl
  | operator op => exact operator rfl
  | equals => exact operator rfl
  | control command => cases plain

theorem numbersTyped_eq_nil_iff (tidy : ∀ text, .typedNumber text ∈ terms → TidyNumber text) :
    numbersTyped terms = [] ↔ ∀ text, .typedNumber text ∉ terms := by
  induction terms using List.reverseRecOn with
  | nil => simp [numbersTyped]
  | append_singleton front last ih =>
      have before := ih fun text member => tidy text (List.mem_append_left _ member)
      by_cases number : ∃ text, last = .typedNumber text
      · obtain ⟨text, rfl⟩ := number
        have nonempty := (tidy text (by simp)).nonempty
        rw [numbersTyped_concat_number]
        constructor
        · intro joined
          have empty : numbersTyped front = [] := (List.append_eq_nil_iff.mp joined).1
          rw [empty, nil_joinNumber] at joined
          exact absurd joined nonempty
        · intro absent
          exact absurd (by simp) (absent text)
      · have other : ∀ text, last ≠ .typedNumber text := not_exists.mp number
        rw [numbersTyped_concat_other front other, before]
        simp [Ne.symm (other _)]

theorem numbersTyped_points_iff (tidy : ∀ text, .typedNumber text ∈ terms → TidyNumber text) :
    numbersTyped terms = [] ∨ numbersTyped terms = lonePoint ↔
      ∀ text, .typedNumber text ∈ terms → text = lonePoint := by
  induction terms using List.reverseRecOn with
  | nil => simp [numbersTyped]
  | append_singleton front last ih =>
      have before := ih fun text member => tidy text (List.mem_append_left _ member)
      by_cases number : ∃ text, last = .typedNumber text
      · obtain ⟨text, rfl⟩ := number
        have nonempty : numbersTyped (front ++ [.typedNumber text]) ≠ [] := by
          intro empty
          exact (numbersTyped_eq_nil_iff tidy).mp empty text (by simp)
        rw [or_iff_right nonempty, numbersTyped_concat_number,
          joinNumber_eq_lonePoint_iff (tidy text (by simp)), before]
        simp [or_imp, forall_and]
      · have other : ∀ text, last ≠ .typedNumber text := not_exists.mp number
        rw [numbersTyped_concat_other front other, before]
        simp [Ne.symm (other _)]

/-- The pad for numbers shows the last number as it is only where each earlier one is a lone point,
and this one begins with a point. -/
theorem numbersTyped_eq_last_iff {text : Text} (tidy : ∀ term ∈ terms, term.Tidy)
    (last : terms = front ++ [.typedNumber text]) :
    numbersTyped terms = text ↔
      ∀ earlier, .typedNumber earlier ∈ front →
        earlier = lonePoint ∧ text.head? = some (.char '.') := by
  subst last
  have tidyBefore : ∀ earlier, .typedNumber earlier ∈ front → TidyNumber earlier := by
    intro earlier member
    exact tidy (.typedNumber earlier) (List.mem_append_left _ member)
  have tidyLast : TidyNumber text := tidy (.typedNumber text) (by simp)
  rw [numbersTyped_concat_number, joinNumber_eq_right_iff tidyLast]
  have silent := numbersTyped_eq_nil_iff tidyBefore
  have points := numbersTyped_points_iff tidyBefore
  constructor
  · rintro (empty | ⟨lone, head⟩)
    · intro earlier member
      exact absurd member (silent.mp empty earlier)
    · intro earlier member
      exact ⟨points.mp (Or.inr lone) earlier member, head⟩
  · intro all
    by_cases empty : numbersTyped front = []
    · exact Or.inl empty
    · obtain ⟨earlier, member⟩ := not_forall_not.mp (mt silent.mpr empty)
      have lone := (points.mpr fun text member => (all text member).1).resolve_left empty
      exact Or.inr ⟨lone, (all earlier member).2⟩

end Expression

/-! The keypads -/

namespace Keypad

variable {k : Keypad} {key : Key} {front : Expression} {log : List Key}

def lengthPad (k : Keypad) : LengthPad → PadValue
  | .feet => k.feet
  | .inches => k.inches

theorem press_grows (plain : key.isControl = false) (turn : key.HasTurn k.mode) :
    (∀ pad, ((k.press key).lengthPad pad).whole = key.grow pad (k.lengthPad pad).whole) ∧
      (k.press key).scalar = key.write k.scalar := by
  cases key with
  | digit own d | fraction own literal =>
      rw [press, typeLength_of_ready (turn.ready rfl)]
      exact ⟨fun pad => by cases own <;> cases pad <;> rfl, by cases own <;> rfl⟩
  | scalarDigit d | point =>
      rw [press, typeScalar_of_ready (turn.ready rfl)]
      exact ⟨fun pad => by cases pad <;> rfl, rfl⟩
  | operator op | equals =>
      rw [press, pressOperator_frame]
      exact ⟨fun pad => by cases pad <;> rfl, rfl⟩
  | control command => cases plain

/-- After a log that alternates the pads show the counts and the numbers of all that was typed. -/
theorem replay_shows (base : Keypad) (zero : ∀ pad, (base.lengthPad pad).whole = 0)
    (blank : base.scalar = []) (start : base.mode = front.mode)
    (plain : ∀ key ∈ log, key.isControl = false)
    (alternates : (front ++ Expression.ofKeys log).Alternates) :
    (∀ pad, (Expression.ofKeys log).ShowsCount pad ((base.replay log).lengthPad pad).whole) ∧
      (base.replay log).scalar = (Expression.ofKeys log).numbersTyped := by
  refine replay_induction (motive := fun log k =>
    (∀ pad, (Expression.ofKeys log).ShowsCount pad (k.lengthPad pad).whole) ∧
      k.scalar = (Expression.ofKeys log).numbersTyped) start plain alternates ?_ ?_
  · refine ⟨fun pad => ?_, blank⟩
    rw [zero pad]
    simp [Expression.ShowsCount, Expression.openLength, Expression.beforeLength, Expression.Unused]
  · rintro before k key plain turn ⟨shows, number⟩
    obtain ⟨grows, writes⟩ := press_grows plain turn
    refine ⟨fun pad => ?_, ?_⟩
    · rw [grows]
      exact (shows pad).press plain
    · rw [writes, number, Expression.numbersTyped_press plain]

end Keypad

end FeetInches
