/-
# The written form of an artifact entry

What is kept of an artifact in a storage is a text. An entry is read back from its text as it
was, if its expiration is an instant that some text states. So is every sum of such an instant and
a span.

## Main results

- `ArtifactEntry.ofText_text`: an entry is read back from its written form.
-/

import Federation.Artifact.Entry
import Federation.Proofs.Metadata.Decoding

namespace Federation.ArtifactEntry

open Federation.Json

variable {A : Arrangement} {e : ArtifactEntry}

theorem isPlain (e : ArtifactEntry) : e.value.IsPlain 1 := by
  refine isPlain_object fun m among => ?_
  simp only [List.mem_cons, List.not_mem_nil, or_false] at among
  rcases among with rfl | rfl | rfl | rfl | rfl
  · exact isPlain_string e.artifact
  · exact isPlain_string e.issuer
  · exact isPlain_string e.relyingParty
  · exact isPlain_string e.message
  · exact isPlain_string e.expiration.text

/-- What is known of an entry from some of its members. -/
def draft (e : ArtifactEntry) (seen : List String) : Draft where
  artifact := slot seen "artifact" e.artifact
  issuer := slot seen "issuerId" e.issuer
  relyingParty := slot seen "relyingPartyId" e.relyingParty
  message := slot seen "message" e.message
  expiration := slot seen "expiration" e.expiration

/-- An entry is read from its value, in any order of the members. -/
theorem reads (civil : e.expiration.IsCivil) : A.Reads decoder e.value e := by
  refine Arrangement.reads_record e.draft rfl (by simp) ?_ ?_
  · intro seen m among fresh
    simp only [List.mem_cons, List.not_mem_nil, or_false] at among
    rcases among with rfl | rfl | rfl | rfl | rfl
    · have read := A.reads_string e.artifact
      simp [Draft.step, draft, read.fill_slot fresh]
    · have read := A.reads_string e.issuer
      simp [Draft.step, draft, read.fill_slot fresh]
    · have read := A.reads_string e.relyingParty
      simp [Draft.step, draft, read.fill_slot fresh]
    · have read := A.reads_string e.message
      simp [Draft.step, draft, read.fill_slot fresh]
    · have read := Metadata.reads_instant (A := A) civil
      simp [Draft.step, draft, read.fill_slot fresh]
  · intro seen all
    rw [Draft.finish, draft, require_slot ((all _).2 (by simp)),
      require_slot ((all _).2 (by simp)), require_slot ((all _).2 (by simp)),
      require_slot ((all _).2 (by simp)), require_slot ((all _).2 (by simp))]
    rfl

/-- **An entry is read back from its written form.** -/
theorem ofText_text (civil : e.expiration.IsCivil) : ofText e.text = .ok e := by
  have read : decoder e.value.outline = .ok e := reads (A := .asWritten) civil
  rw [ofText, text, decodeText, Json.ofText_text e.isPlain.whole]
  dsimp only
  rw [read]
  rfl

end Federation.ArtifactEntry
