/-
# What decoders let through

A decoder that takes members one by one keeps a property of what it knows if every member that
it takes does, in whatever order and under whatever names members come. So what is decoded can be
bounded without looking at the text.

## Main definitions

- `Decoder.Gives`: a property of all that a decoder decodes.
- `Step.Keeps`: a property that no member takes away.

## Main results

- `Decoder.Gives.optional`, `Decoder.Gives.list`: the parts of what is decoded.
- `gives_record`: a record has what its members keep.
-/

import Federation.Json.Decoder

namespace Federation.Json

variable {α δ : Type} {decoder : Decoder α} {Q : α → Prop} {o : Outline}

theorem ok_of_map_eq_ok {x : Except Fault α} {f : α → δ} {d : δ} (mapped : x.map f = .ok d) :
    ∃ a, x = .ok a ∧ f a = d := by
  cases x with
  | error fault => cases mapped
  | ok a => exact ⟨a, rfl, Except.ok.inj mapped⟩

/-- All that a decoder decodes has a property. -/
def Decoder.Gives (decoder : Decoder α) (Q : α → Prop) : Prop := ∀ o a, decoder o = .ok a → Q a

theorem gives_natural (max : Nat) : (natural max).Gives (· ≤ max) := by
  intro o n decoded
  rw [natural.eq_def] at decoded
  split at decoded
  · split at decoded
    · rename_i fits
      exact Except.ok.inj decoded ▸ fits
    · cases decoded
  · cases decoded

theorem Decoder.Gives.optional (gives : decoder.Gives Q) :
    (Json.optional decoder).Gives fun x => ∀ a ∈ x, Q a := by
  intro o x decoded
  rw [Json.optional.eq_def] at decoded
  split at decoded
  · obtain rfl := Except.ok.inj decoded
    exact nofun
  · obtain ⟨a, found, rfl⟩ := ok_of_map_eq_ok decoded
    intro b same
    exact Option.some_inj.1 same ▸ gives o a found

theorem Decoder.Gives.items (gives : decoder.Gives Q) {os : List Outline} {as : List α}
    (decoded : Json.items decoder os = .ok as) : ∀ a ∈ as, Q a := by
  induction os generalizing as with
  | nil =>
    obtain rfl := Except.ok.inj decoded
    exact nofun
  | cons o rest ih =>
    rw [Json.items] at decoded
    split at decoded
    · cases decoded
    · rename_i first found
      obtain ⟨more, others, rfl⟩ := ok_of_map_eq_ok decoded
      exact List.forall_mem_cons.2 ⟨gives o first found, ih others⟩

theorem Decoder.Gives.list (gives : decoder.Gives Q) :
    (Json.list decoder).Gives fun as => ∀ a ∈ as, Q a := by
  intro o as decoded
  rw [Json.list.eq_def] at decoded
  split at decoded
  · split at decoded
    · cases decoded
    · rename_i found
      split at decoded
      · obtain rfl := Except.ok.inj decoded
        exact gives.items found
      · cases decoded
  · cases decoded

/-! ## Records -/

variable {step : Step δ} {P : δ → Prop}

/-- Every member that is taken keeps a property of what is known. -/
def Step.Keeps (step : Step δ) (P : δ → Prop) : Prop :=
  ∀ d name o d', P d → step d name o = .ok d' → P d'

theorem Step.Keeps.members (keeps : Step.Keeps step P) {d d' : δ}
    {entries : List (Option String × Outline)} (start : P d)
    (taken : Json.members step d entries = .ok d') : P d' := by
  induction entries generalizing d with
  | nil => exact Except.ok.inj taken ▸ start
  | cons entry rest ih =>
    obtain ⟨_ | name, o⟩ := entry
    · cases taken
    · rw [Json.members] at taken
      split at taken
      · cases taken
      · rename_i first
        exact ih (keeps d name o _ start first) taken

theorem Step.Keeps.positions (keeps : Step.Keeps step P) {names : List String} {d d' : δ}
    {os : List Outline} (start : P d) (taken : Json.positions step names d os = .ok d') : P d' := by
  induction os generalizing d names with
  | nil =>
    rw [Json.positions] at taken
    exact Except.ok.inj taken ▸ start
  | cons o rest ih =>
    cases names with
    | nil => cases taken
    | cons name names =>
      rw [Json.positions] at taken
      split at taken
      · cases taken
      · rename_i first
        exact ih (keeps d name o _ start first) taken

/-- A record has a property if what is known of it keeps one that is enough in the end. -/
theorem gives_record {names : List String} {start : δ} {finish : δ → Except Fault α}
    (blank : P start) (keeps : Step.Keeps step P) (finished : ∀ d a, P d → finish d = .ok a → Q a) :
    (record names step start finish).Gives Q := by
  intro o a decoded
  rw [record.eq_def] at decoded
  split at decoded
  · split at decoded
    · cases decoded
    · rename_i taken
      split at decoded
      · exact finished _ a (keeps.members blank taken) decoded
      · cases decoded
  · split at decoded
    · cases decoded
    · rename_i taken
      split at decoded
      · exact finished _ a (keeps.positions blank taken) decoded
      · cases decoded
  · cases decoded

/-- A step fills one member or goes on with the others. -/
theorem member_keeps {c : Prop} [Decidable c] {slot : Option α} {set : α → δ}
    {others : Except Fault δ} {d : δ}
    (taken : (if c then fill slot decoder set o else others) = .ok d)
    (filled : ∀ a, decoder o = .ok a → P (set a)) (later : others = .ok d → P d) : P d := by
  by_cases own : c
  · rw [if_pos own] at taken
    cases slot with
    | some b => cases taken
    | none =>
      obtain ⟨a, found, rfl⟩ := ok_of_map_eq_ok taken
      exact filled a found
  · rw [if_neg own] at taken
    exact later taken

theorem passOver_keeps {d d' : δ} (passed : passOver d o = .ok d') (kept : P d) : P d' := by
  rw [passOver] at passed
  split at passed
  · exact Except.ok.inj passed ▸ kept
  · cases passed

theorem require_bind_eq_ok {slot : Option δ} {next : δ → Except Fault α} {a : α}
    (run : (require slot >>= next) = .ok a) : ∃ d, slot = some d ∧ next d = .ok a := by
  cases slot with
  | none => cases run
  | some d => exact ⟨d, rfl, run⟩

/-! A member that is left out is empty, so that nothing has to be known of it. -/

theorem forall_mem_getD_nil {slot : Option (List α)} (known : ∀ as ∈ slot, ∀ a ∈ as, Q a) :
    ∀ a ∈ slot.getD [], Q a := by
  cases slot with
  | none => exact nofun
  | some as => exact known as rfl

theorem forall_mem_getD_none {slot : Option (Option α)} (known : ∀ x ∈ slot, ∀ a ∈ x, Q a) :
    ∀ a ∈ slot.getD none, Q a := by
  cases slot with
  | none => exact nofun
  | some x => exact known x rfl

end Federation.Json
