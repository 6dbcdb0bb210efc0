/-
# CodeRetrieval.Proofs.Slots — chunks of one digest share a slot.

Every digest of a list of chunks has one slot, and in it stands the text of a chunk with that digest.  So
the slot of a chunk is the place of its digest among those of the texts to embed, whatever the digests
are.  If no two texts have one digest, the slot of a chunk holds the chunk's own text, and the texts to
embed are the texts of the chunks, each at its first occurrence.
-/
import CodeRetrieval.Similarity.Scoring
import Mathlib.Data.List.Induction
import Mathlib.Data.List.Nodup

namespace CodeRetrieval.Similarity

/-! ## What slots hold -/

/-- The digests of the texts to embed, in the order of their slots. -/
def Slots.digests (slots : Slots) : List Text := slots.texts.reverse.map Chunk.digestOf

/-- What the slots hold after the chunks `seen`: one slot for each of their digests, under which every
chunk is found, and in it the text of a chunk with that digest. -/
structure Slots.Hold (slots : Slots) (seen : List Chunk) : Prop where
  known : ∀ digest slot, slots.ofDigest[digest]? = some slot ↔
    digest ∈ slots.digests ∧ slots.digests.idxOf digest = slot
  assigned : slots.assigned.reverse = seen.map fun c => slots.digests.idxOf c.digest
  mem_digests : ∀ digest, digest ∈ slots.digests ↔ digest ∈ seen.map Chunk.digest
  mem_texts : ∀ text ∈ slots.texts, text ∈ seen.map Chunk.text
  nodup : slots.digests.Nodup

namespace Slots

variable {slots : Slots} {seen : List Chunk}

theorem hold_nil : Hold ⟨[], ∅, []⟩ [] := by
  refine ⟨?_, rfl, fun _ => Iff.rfl, ?_, List.nodup_nil⟩
  · intro digest slot
    simp [digests]
  · intro text htext
    cases htext

/-- A chunk of a known digest takes the slot of that digest. -/
theorem Hold.reuse (h : slots.Hold seen) {chunk : Chunk} (hknown : chunk.digest ∈ slots.digests) :
    Hold { slots with assigned := slots.digests.idxOf chunk.digest :: slots.assigned }
      (seen ++ [chunk]) := by
  refine ⟨h.known, ?_, ?_, ?_, h.nodup⟩
  · show (slots.digests.idxOf chunk.digest :: slots.assigned).reverse = _
    rw [List.reverse_cons, h.assigned, List.map_append]
    rfl
  · intro digest
    show digest ∈ slots.digests ↔ _
    rw [List.map_append, List.mem_append, ← h.mem_digests, List.map_singleton, List.mem_singleton]
    constructor
    · exact .inl
    · rintro (hdigest | rfl)
      · exact hdigest
      · exact hknown
  · intro text htext
    rw [List.map_append]
    exact List.mem_append_left _ (h.mem_texts text htext)

/-- A chunk of a new digest takes a slot behind the others, and they hold what they held. -/
theorem Hold.extend (h : slots.Hold seen) {chunk : Chunk} (hnew : chunk.digest ∉ slots.digests) :
    Hold ⟨chunk.text :: slots.texts, slots.ofDigest.insert chunk.digest slots.texts.length,
      slots.texts.length :: slots.assigned⟩ (seen ++ [chunk]) := by
  have hdigests : digests ⟨chunk.text :: slots.texts,
      slots.ofDigest.insert chunk.digest slots.texts.length, slots.texts.length :: slots.assigned⟩ =
      slots.digests ++ [chunk.digest] := by
    unfold digests
    rw [List.reverse_cons, List.map_append]
    rfl
  have hlength : slots.digests.length = slots.texts.length := by
    unfold digests
    rw [List.length_map, List.length_reverse]
  refine ⟨?_, ?_, ?_, ?_, ?_⟩
  · -- the new digest stands last, so the places of the others stay
    intro digest slot
    rw [hdigests, Std.HashMap.getElem?_insert, List.mem_append, List.mem_singleton, List.idxOf_append]
    by_cases hdigest : digest = chunk.digest
    · subst hdigest
      rw [if_pos (beq_self_eq_true _), if_neg hnew, List.idxOf_cons_self, hlength, Nat.zero_add,
        Option.some.injEq]
      simp
    · rw [if_neg (by simpa using Ne.symm hdigest), h.known]
      by_cases hknown : digest ∈ slots.digests
      · simp [hknown]
      · simp [hknown, hdigest]
  · rw [hdigests]
    show (slots.texts.length :: slots.assigned).reverse = _
    rw [List.reverse_cons, h.assigned, List.map_append, List.map_singleton, List.idxOf_append,
      if_neg hnew, List.idxOf_cons_self, hlength, Nat.zero_add]
    congr 1
    rw [List.map_inj_left]
    intro c hc
    rw [List.idxOf_append, if_pos ((h.mem_digests _).mpr (List.mem_map_of_mem hc))]
  · intro digest
    rw [hdigests, List.mem_append, h.mem_digests, List.map_append, List.mem_append]
    exact Iff.rfl
  · intro text htext
    rw [List.map_append, List.mem_append]
    rcases List.mem_cons.mp htext with rfl | htext
    · exact .inr List.mem_cons_self
    · exact .inl (h.mem_texts text htext)
  · rw [hdigests, List.nodup_append']
    refine ⟨h.nodup, List.nodup_singleton _, ?_⟩
    exact List.disjoint_singleton.mpr hnew

theorem Hold.assign (h : slots.Hold seen) (chunk : Chunk) :
    (slots.assign chunk).Hold (seen ++ [chunk]) := by
  unfold Slots.assign
  split
  · rename_i slot hslot
    obtain ⟨hknown, rfl⟩ := (h.known _ _).mp hslot
    exact h.reuse hknown
  · rename_i hslot
    apply h.extend
    intro hknown
    rw [(h.known _ _).mpr ⟨hknown, rfl⟩] at hslot
    cases hslot

theorem Hold.foldl (h : slots.Hold seen) (chunks : List Chunk) :
    (chunks.foldl Slots.assign slots).Hold (seen ++ chunks) := by
  induction chunks generalizing slots seen with
  | nil => rwa [List.append_nil]
  | cons chunk chunks ih =>
      rw [List.append_cons]
      exact ih (h.assign chunk)

end Slots

theorem hold_ofChunks (chunks : List Chunk) : (Slots.ofChunks chunks).Hold chunks :=
  Slots.hold_nil.foldl chunks

/-! ## The slot of a chunk -/

variable {chunks : List Chunk} {chunk : Chunk}

/-- The slot of a chunk: the place of its digest among those of the texts to embed. -/
def slotOf (chunks : List Chunk) (chunk : Chunk) : Nat :=
  ((distinctTexts chunks).map Chunk.digestOf).idxOf chunk.digest

theorem chunkSlots_eq (chunks : List Chunk) : chunkSlots chunks = chunks.map (slotOf chunks) :=
  (hold_ofChunks chunks).assigned

theorem nodup_digests (chunks : List Chunk) :
    ((distinctTexts chunks).map Chunk.digestOf).Nodup :=
  (hold_ofChunks chunks).nodup

theorem exists_chunk_of_mem_distinctTexts {text : Text} (h : text ∈ distinctTexts chunks) :
    ∃ c ∈ chunks, c.text = text :=
  List.mem_map.mp ((hold_ofChunks chunks).mem_texts text (List.mem_reverse.mp h))

/-- The slot of a chunk holds a text of its digest. -/
theorem exists_getElem?_slotOf (h : chunk ∈ chunks) :
    ∃ text, (distinctTexts chunks)[slotOf chunks chunk]? = some text ∧
      Chunk.digestOf text = chunk.digest := by
  have hmem : chunk.digest ∈ (distinctTexts chunks).map Chunk.digestOf :=
    ((hold_ofChunks chunks).mem_digests _).mpr (List.mem_map_of_mem h)
  have hlookup := List.getElem?_eq_getElem (List.idxOf_lt_length_of_mem hmem)
  rw [List.getElem_idxOf, List.getElem?_map, Option.map_eq_some_iff] at hlookup
  exact hlookup

theorem slotOf_lt_length (h : chunk ∈ chunks) :
    slotOf chunks chunk < (distinctTexts chunks).length := by
  obtain ⟨text, htext, -⟩ := exists_getElem?_slotOf h
  exact (List.getElem?_eq_some_iff.mp htext).1

/-- No other slot holds a text of the chunk's digest. -/
theorem slotOf_eq_of_getElem? {text : Text} {place : Nat}
    (h : (distinctTexts chunks)[place]? = some text) (hdigest : Chunk.digestOf text = chunk.digest) :
    slotOf chunks chunk = place := by
  obtain ⟨hplace, rfl⟩ := List.getElem?_eq_some_iff.mp h
  have hlength : place < ((distinctTexts chunks).map Chunk.digestOf).length := by
    rwa [List.length_map]
  unfold slotOf
  rw [← hdigest, ← List.getElem_map Chunk.digestOf (h := hlength)]
  exact (nodup_digests chunks).idxOf_getElem place hlength

/-! ## Digests of different texts -/

/-- No two of the chunks have one digest for different texts. -/
def Collisionless (chunks : List Chunk) : Prop :=
  ∀ a ∈ chunks, ∀ b ∈ chunks, a.digest = b.digest → a.text = b.text

instance (chunks : List Chunk) : Decidable (Collisionless chunks) :=
  inferInstanceAs (Decidable (∀ a ∈ chunks, ∀ b ∈ chunks, a.digest = b.digest → a.text = b.text))

/-- The slot of a chunk holds the chunk's own text. -/
theorem getElem?_slotOf (hdigest : Collisionless chunks) (h : chunk ∈ chunks) :
    (distinctTexts chunks)[slotOf chunks chunk]? = some chunk.text := by
  obtain ⟨text, htext, hsame⟩ := exists_getElem?_slotOf h
  obtain ⟨c, hc, rfl⟩ := exists_chunk_of_mem_distinctTexts (List.mem_of_getElem? htext)
  rw [htext, hdigest c hc chunk h hsame]

theorem distinctTexts_concat (chunks : List Chunk) (chunk : Chunk) :
    distinctTexts (chunks ++ [chunk]) =
      if (chunks.map Chunk.digest).contains chunk.digest then distinctTexts chunks
      else distinctTexts chunks ++ [chunk.text] := by
  have hhold := hold_ofChunks chunks
  unfold distinctTexts Slots.ofChunks
  rw [List.foldl_append, List.foldl_cons, List.foldl_nil]
  show (Slots.assign (Slots.ofChunks chunks) chunk).texts.reverse = _
  unfold Slots.assign
  split
  · rename_i slot hslot
    obtain ⟨hknown, -⟩ := (hhold.known _ _).mp hslot
    rw [if_pos (List.contains_iff_mem.mpr ((hhold.mem_digests _).mp hknown))]
    rfl
  · rename_i hslot
    rw [if_neg, List.reverse_cons]
    · rfl
    · intro hknown
      rw [List.contains_iff_mem, ← hhold.mem_digests] at hknown
      rw [(hhold.known _ _).mpr ⟨hknown, rfl⟩] at hslot
      cases hslot

/-- The texts to embed are the texts of the chunks in the order of their first occurrence. -/
theorem distinctTexts_eq_eraseDups (h : Collisionless chunks) :
    distinctTexts chunks = (chunks.map Chunk.text).eraseDups := by
  induction chunks using List.reverseRecOn with
  | nil => rfl
  | append_singleton chunks chunk ih =>
      have hbefore : Collisionless chunks := by
        intro a ha b hb
        exact h a (List.mem_append_left _ ha) b (List.mem_append_left _ hb)
      -- a digest that was seen is that of a text that was seen
      have hseen : (chunks.map Chunk.digest).contains chunk.digest =
          (chunks.map Chunk.text).contains chunk.text := by
        rw [Bool.eq_iff_iff, List.contains_iff_mem, List.contains_iff_mem, List.mem_map, List.mem_map]
        constructor
        · rintro ⟨c, hc, hdigest⟩
          exact ⟨c, hc, h c (List.mem_append_left _ hc) chunk (by simp) hdigest⟩
        · rintro ⟨c, hc, htext⟩
          exact ⟨c, hc, congrArg Chunk.digestOf htext⟩
      rw [distinctTexts_concat, ih hbefore, hseen, List.map_append, List.map_singleton,
        List.eraseDups_append, List.cons_removeAll, List.nil_removeAll]
      cases (chunks.map Chunk.text).contains chunk.text with
      | true => simp
      | false => simp [List.eraseDups_cons]

end CodeRetrieval.Similarity
