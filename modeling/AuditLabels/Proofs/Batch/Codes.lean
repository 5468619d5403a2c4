import AuditLabels.Batch.Request
import AuditLabels.Proofs.Json.Members
import AuditLabels.Text.Numeral

/-!
# Codes of batches

Every code of a batch that was read is a number of 64 bits, whatever the bytes it was read from.
-/

namespace AuditLabels

open Json

/-! ## Readers of numbers and lists -/

namespace Json

section Lists

variable {α : Type} {read : Reader α} {Q : α → Prop}

/-- What holds of every element that is read holds of all that were read.  By induction on the
clock. -/
theorem forall_of_readElements (hread : ∀ bytes x rest, read bytes = .ok (x, rest) → Q x)
    {clock : List UInt8} {acc xs : List α} {bytes rest : List UInt8} (hacc : ∀ x ∈ acc, Q x)
    (h : readElements read clock acc bytes = .ok (xs, rest)) : ∀ x ∈ xs, Q x := by
  induction clock generalizing acc bytes with
  | nil => cases h
  | cons t clock ih =>
    rw [readElements] at h
    split at h
    · cases h
    · obtain ⟨r, -, he⟩ := map_eq_ok.1 h
      obtain ⟨rfl, -⟩ := Prod.mk.inj he
      intro x hx
      exact hacc x (List.mem_reverse.1 hx)
    · split at h
      · cases h
      · next y r hy =>
        have hnext : ∀ x ∈ y :: acc, Q x := by
          intro x hx
          rcases List.mem_cons.1 hx with rfl | hx
          · exact hread _ _ _ hy
          · exact hacc x hx
        exact ih hnext h

theorem forall_of_readList (hread : ∀ bytes x rest, read bytes = .ok (x, rest) → Q x)
    {xs : List α} {bytes rest : List UInt8} (h : readList read bytes = .ok (xs, rest)) :
    ∀ x ∈ xs, Q x := by
  obtain ⟨⟨head, r⟩, -, h⟩ := bind_eq_ok.1 h
  dsimp only at h
  split at h
  · refine forall_of_readElements hread ?_ h
    intro x hx
    cases hx
  · cases h

end Lists

end Json

/-! ## Requests -/

namespace BatchRequest

/-- All codes are numbers of 64 bits. -/
def Within (xs : List Int) : Prop := ∀ c ∈ xs, Text.isInt64 c = true

theorem within_nil : Within [] := by
  intro c hc
  cases hc

theorem within_of_readCodes {xs : List Int} {bytes rest : List UInt8}
    (h : readCodes bytes = .ok (xs, rest)) : Within xs := by
  refine forall_of_readList (fun bytes n rest hn => ?_) h
  obtain ⟨hlow, hhigh⟩ := between_of_readInteger hn
  rw [Text.isInt64, Bool.and_eq_true, decide_eq_true_iff, decide_eq_true_iff]
  omega

/-- The lists that have been read so far are within. -/
def Draft.Within (d : Draft) : Prop :=
  BatchRequest.Within (d.actions.getD []) ∧ BatchRequest.Within (d.resources.getD [])

theorem within_of_readMember {name : String} {xs : List Int} {bytes rest : List UInt8}
    (h : readMember readCodes name bytes = .ok (xs, rest)) : Within xs := by
  obtain ⟨r, -, hr⟩ := readMember_eq_ok.1 h
  exact within_of_readCodes hr

/-- One more member keeps the lists within. -/
theorem Draft.Within.of_readField {d d' : Draft} (hd : d.Within) {name : String}
    {bytes rest : List UInt8} (h : readField d name bytes = .ok (d', rest)) : d'.Within := by
  unfold readField at h
  split at h
  · split at h
    · cases h
    · obtain ⟨⟨xs, r⟩, hxs, he⟩ := map_eq_ok.1 h
      obtain ⟨rfl, -⟩ := Prod.mk.inj he
      exact ⟨within_of_readMember hxs, hd.2⟩
  split at h
  · split at h
    · cases h
    · obtain ⟨⟨xs, r⟩, hxs, he⟩ := map_eq_ok.1 h
      obtain ⟨rfl, -⟩ := Prod.mk.inj he
      exact ⟨hd.1, within_of_readMember hxs⟩
  · obtain ⟨_, -, he⟩ := map_eq_ok.1 h
    obtain ⟨rfl, -⟩ := Prod.mk.inj he
    exact hd

/-- All members keep the lists within.  By induction on the clock. -/
theorem Draft.Within.of_readFields {clock : List UInt8} {first : Bool} {d : Draft}
    (hd : d.Within) {b : BatchRequest} {bytes rest : List UInt8}
    (h : readFields clock first d bytes = .ok (b, rest)) :
    BatchRequest.Within b.actions ∧ BatchRequest.Within b.resources := by
  induction clock generalizing first d bytes with
  | nil => cases h
  | cons t clock ih =>
    rw [readFields] at h
    split at h
    · cases h
    · obtain ⟨rfl, -⟩ := Prod.mk.inj (Except.ok.inj h)
      exact hd
    · split at h
      · cases h
      · split at h
        · cases h
        · next hfield => exact ih (hd.of_readField hfield) h

theorem within_of_readItem {i : Nat} {o : Option (List Int)} {bytes rest : List UInt8}
    (h : readItem i bytes = .ok (o, rest)) : Within (o.getD []) := by
  obtain ⟨next, -, h⟩ := bind_eq_ok.1 h
  cases next with
  | none =>
    obtain ⟨rfl, -⟩ := Prod.mk.inj (Except.ok.inj h)
    exact within_nil
  | some start =>
    dsimp only at h
    split at h
    · next hxs =>
      obtain ⟨rfl, -⟩ := Prod.mk.inj (Except.ok.inj h)
      exact within_of_readCodes hxs
    · cases h

theorem within_of_readSecond {actions o : Option (List Int)} {bytes rest : List UInt8}
    (h : readSecond actions bytes = .ok (o, rest)) : Within (o.getD []) := by
  unfold readSecond at h
  split at h
  · exact within_of_readItem h
  · obtain ⟨rfl, -⟩ := Prod.mk.inj (Except.ok.inj h)
    exact within_nil

/-- **The codes of a request that was read are numbers of 64 bits.** -/
theorem within_of_read {b : BatchRequest} {bytes rest : List UInt8}
    (h : read bytes = .ok (b, rest)) : Within b.actions ∧ Within b.resources := by
  obtain ⟨⟨head, r⟩, -, h⟩ := bind_eq_ok.1 h
  dsimp only at h
  split at h
  · have hempty : Draft.Within ⟨none, none⟩ := ⟨within_nil, within_nil⟩
    exact hempty.of_readFields h
  · obtain ⟨⟨actions, r₁⟩, h₁, h⟩ := bind_eq_ok.1 h
    obtain ⟨⟨resources, r₂⟩, h₂, h⟩ := bind_eq_ok.1 h
    obtain ⟨r₃, -, h⟩ := bind_eq_ok.1 h
    obtain ⟨rfl, -⟩ := Prod.mk.inj (Except.ok.inj h)
    exact ⟨within_of_readItem h₁, within_of_readSecond h₂⟩
  · cases h

end BatchRequest

end AuditLabels
