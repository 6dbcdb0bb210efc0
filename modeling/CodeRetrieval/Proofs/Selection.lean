/-
# CodeRetrieval.Proofs.Selection — the selection is the stable choice of the best chunks.

Chunks are told apart by their places in the input, not by their keys, which several of them may share.
With its place beside it every rated chunk is ahead of another one or behind it: the higher score comes
first, and of equal scores the earlier place.  A `StableTop` is a choice of the best in this order, and
the selection is the only one.
-/
import CodeRetrieval.Proofs.Ranking
import CodeRetrieval.Proofs.StableSort
import Mathlib.Data.List.Nodup
import Mathlib.Data.List.Perm.Subperm

namespace CodeRetrieval.Ranking

open Lexical (Scores)
open StableSort (Ahead)

variable {R : Type} [Scalar R] {settings : RankSettings R} {keyword similarity : Scores R}
  {chunks : List Chunk} {placed placed' : List (Ranked R × Nat)}

/-- What an entry of the ranking says of its chunk: the two scores kept under the chunk's key, the
similarity replaced where there is none, and the blend of just these. -/
structure Rates (settings : RankSettings R) (keyword similarity : Scores R) (chunk : Chunk)
    (entry : Ranked R) : Prop where
  chunk_eq : entry.chunk = chunk
  keyword_eq : entry.keyword = keyword[chunk.key]?
  similarity_eq : entry.similarity = (similarity[chunk.key]?).getD settings.absentSimilarity
  score_of_some : ∀ k, entry.keyword = some k → entry.score = k + entry.similarity * settings.weight
  score_of_none : entry.keyword = none → entry.score = settings.soleFactor * entry.similarity

theorem rates_iff {chunk : Chunk} {entry : Ranked R} :
    Rates settings keyword similarity chunk entry ↔ entry = rate settings keyword similarity chunk := by
  constructor
  · rintro ⟨hchunk, hkeyword, hsimilarity, hsome, hnone⟩
    have hscore : entry.score = blend settings entry.keyword entry.similarity := by
      unfold blend
      cases h : entry.keyword with
      | some k => exact hsome k h
      | none => exact hnone h
    calc entry = ⟨entry.chunk, blend settings entry.keyword entry.similarity, entry.keyword,
          entry.similarity⟩ := by rw [← hscore]
      _ = rate settings keyword similarity chunk := by
        rw [hchunk, hkeyword, hsimilarity, ← Std.HashMap.getD_eq_getD_getElem?]
        rfl
  · rintro rfl
    exact ⟨rfl, rfl, Std.HashMap.getD_eq_getD_getElem?, fun _ => rate_score_of_some,
      rate_score_of_none⟩

/-- A choice of the best chunks, each by its place in the input: as many as are asked for and there,
no place twice, every entry rated for the chunk at its place, each ahead of those behind it and of all
that were left out. -/
structure StableTop (settings : RankSettings R) (keyword similarity : Scores R) (chunks : List Chunk)
    (placed : List (Ranked R × Nat)) : Prop where
  length_eq : placed.length = min settings.topK chunks.length
  distinct : (placed.map Prod.snd).Nodup
  rated : ∀ entry ∈ placed, ∃ chunk, chunks[entry.2]? = some chunk ∧
    Rates settings keyword similarity chunk entry.1
  descending : placed.Pairwise (Ahead ranksBefore)
  best : ∀ (other : Ranked R × Nat) (chunk : Chunk), chunks[other.2]? = some chunk →
    Rates settings keyword similarity chunk other.1 → other.2 ∉ placed.map Prod.snd →
    ∀ entry ∈ placed, Ahead ranksBefore entry other

theorem mem_zipIdx_rate_iff {entry : Ranked R × Nat} :
    entry ∈ (chunks.map (rate settings keyword similarity)).zipIdx ↔
      ∃ chunk, chunks[entry.2]? = some chunk ∧ Rates settings keyword similarity chunk entry.1 := by
  rw [List.mem_zipIdx_iff_getElem?, List.getElem?_map, Option.map_eq_some_iff]
  simp only [rates_iff, eq_comm]

/-- The first of all rated chunks in their order are such a choice. -/
theorem exists_stableTop (settings : RankSettings R) (keyword similarity : Scores R)
    (chunks : List Chunk) :
    ∃ placed, StableTop settings keyword similarity chunks placed ∧
      select settings keyword similarity chunks = placed.map Prod.fst := by
  obtain ⟨all, hperm, hordered, hsort⟩ := StableSort.exists_placed ranksBefore_trans ranksBefore_total
    (chunks.map (rate settings keyword similarity))
  refine ⟨all.take settings.topK, ⟨?_, ?_, ?_, ?_, ?_⟩, ?_⟩
  · rw [List.length_take, hperm.length_eq, List.length_zipIdx, List.length_map]
  · exact (StableSort.nodup_places hperm).sublist ((List.take_sublist _ _).map Prod.snd)
  · intro entry hentry
    exact mem_zipIdx_rate_iff.mp (hperm.mem_iff.mp (List.mem_of_mem_take hentry))
  · exact hordered.sublist (List.take_sublist _ _)
  · -- what was left out stands behind the cut
    intro other chunk hplace hrates hout entry hentry
    have hmem : other ∈ all := hperm.mem_iff.mpr (mem_zipIdx_rate_iff.mpr ⟨chunk, hplace, hrates⟩)
    rw [← List.take_append_drop settings.topK all, List.mem_append] at hmem
    have hdrop : other ∈ all.drop settings.topK :=
      hmem.resolve_left fun htake => hout (List.mem_map_of_mem htake)
    exact hordered.rel_of_mem_take_of_mem_drop hentry hdrop
  · unfold select
    rw [hsort, List.map_take]

/-- Two choices rate the chunk at a place alike. -/
theorem StableTop.eq_of_place (h : StableTop settings keyword similarity chunks placed)
    (h' : StableTop settings keyword similarity chunks placed') {a b : Ranked R × Nat}
    (ha : a ∈ placed) (hb : b ∈ placed') (heq : a.2 = b.2) : a = b := by
  obtain ⟨chunk, hplace, hrates⟩ := h.rated a ha
  obtain ⟨chunk', hplace', hrates'⟩ := h'.rated b hb
  rw [heq, hplace', Option.some.injEq] at hplace
  subst hplace
  exact Prod.ext ((rates_iff.mp hrates).trans (rates_iff.mp hrates').symm) heq

/-- What a choice has is ahead of what only another choice has. -/
theorem StableTop.ahead_of_not_mem (h : StableTop settings keyword similarity chunks placed)
    (h' : StableTop settings keyword similarity chunks placed') {entry rival : Ranked R × Nat}
    (hentry : entry ∈ placed) (hrival : rival ∈ placed') (hout : rival ∉ placed) :
    Ahead ranksBefore entry rival := by
  obtain ⟨chunk, hplace, hrates⟩ := h'.rated rival hrival
  refine h.best rival chunk hplace hrates ?_ entry hentry
  intro hmem
  obtain ⟨twin, htwin, heq⟩ := List.mem_map.mp hmem
  exact hout (h.eq_of_place h' htwin hrival heq ▸ htwin)

theorem StableTop.perm_of_subset (h : StableTop settings keyword similarity chunks placed)
    (h' : StableTop settings keyword similarity chunks placed') (hsubset : placed ⊆ placed') :
    placed.Perm placed' :=
  ((List.Nodup.of_map _ h.distinct).subperm hsubset).perm_of_length_le
    (Nat.le_of_eq (h'.length_eq.trans h.length_eq.symm))

/-- An entry of one choice that is missing in another would be ahead of one that is ahead of it. -/
theorem StableTop.subset (h : StableTop settings keyword similarity chunks placed)
    (h' : StableTop settings keyword similarity chunks placed') : placed ⊆ placed' := by
  intro entry hentry
  by_contra hout
  -- as many are chosen, so the other choice too has an entry that is missing in this one
  obtain ⟨rival, hrival, hrivalOut⟩ : ∃ rival ∈ placed', rival ∉ placed := by
    by_contra hnone
    push Not at hnone
    exact hout ((h'.perm_of_subset h hnone).mem_iff.mpr hentry)
  exact (h.ahead_of_not_mem h' hentry hrival hrivalOut).asymm
    (h'.ahead_of_not_mem h hrival hentry hout)

theorem StableTop.unique (h : StableTop settings keyword similarity chunks placed)
    (h' : StableTop settings keyword similarity chunks placed') : placed = placed' :=
  StableSort.eq_of_ahead (h.perm_of_subset h' (h.subset h')) h.descending h'.descending

/-- The selection is the one stable choice of the best chunks, and asking for more of them only adds
to its end. -/
theorem select_is_stableTop (settings : RankSettings R) (keyword similarity : Scores R)
    (chunks : List Chunk) :
    (∀ ranked, ranked = select settings keyword similarity chunks ↔
      ∃ placed, StableTop settings keyword similarity chunks placed ∧ ranked = placed.map Prod.fst) ∧
    ∀ count, settings.topK ≤ count → select settings keyword similarity chunks <+:
      select { settings with topK := count } keyword similarity chunks := by
  constructor
  · intro ranked
    obtain ⟨placed, htop, hselect⟩ := exists_stableTop settings keyword similarity chunks
    constructor
    · rintro rfl
      exact ⟨placed, htop, hselect⟩
    · rintro ⟨placed', htop', rfl⟩
      rw [htop'.unique htop, hselect]
  · intro count hle
    exact List.take_prefix_take_left hle

end CodeRetrieval.Ranking
