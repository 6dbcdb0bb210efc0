/-
# CodeRetrieval.Proofs.TermIndex — what the index holds about its documents.

An index is `Built` from documents when they were added one after the other, the terms of each listed
in whatever order.  The order leaves no trace in what a built index answers: under every term stands
one posting for each document that holds it, in the order of the documents and with the number of times
the term occurs, and beside them stand the title and the number of terms of every document.
-/
import CodeRetrieval.Lexical.Index
import Mathlib.Algebra.BigOperators.Group.List.Lemmas
import Mathlib.Data.List.Dedup

namespace CodeRetrieval

/-- The places of a list ascend. -/
theorem ascending_zipIdx {α : Type} (xs : List α) : xs.zipIdx.Pairwise fun a b => a.2 < b.2 := by
  apply List.pairwise_map.mp
  show (xs.zipIdx.map Prod.snd).Pairwise (· < ·)
  rw [List.zipIdx_map_snd]
  exact List.pairwise_lt_range'

/-! ## Counted terms -/

namespace Token

theorem getElem?_foldl_count (tokens : List Text) (counts : Std.HashMap Text Nat) (t : Text) :
    (tokens.foldl (fun counts token => counts.insert token (counts.getD token 0 + 1)) counts)[t]? =
      if t ∈ tokens then some (counts.getD t 0 + tokens.count t) else counts[t]? := by
  induction tokens generalizing counts with
  | nil => simp
  | cons token tokens ih =>
      rw [List.foldl_cons, ih, Std.HashMap.getD_insert, Std.HashMap.getElem?_insert]
      by_cases heq : token = t
      · subst heq
        by_cases hmem : token ∈ tokens
        · simp [hmem]
          omega
        · simp [hmem, List.count_eq_zero_of_not_mem hmem]
      · have hne : ¬ t = token := fun h => heq h.symm
        simp [heq, hne]

theorem getElem?_tally (tokens : List Text) (t : Text) :
    (tally tokens)[t]? = if t ∈ tokens then some (tokens.count t) else none := by
  unfold tally
  rw [getElem?_foldl_count, Std.HashMap.getD_empty, Nat.zero_add, Std.HashMap.getElem?_empty]

/-- The counted terms of a text are its distinct terms, each with its number of occurrences. -/
theorem toList_counts_perm (text : Text) :
    (counts text).toList.Perm ((all text).dedup.map fun t => (t, (all text).count t)) := by
  have hkeys : ((counts text).toList.map Prod.fst).Nodup := by
    rw [Std.HashMap.map_fst_toList_eq_keys]
    exact Std.HashMap.nodup_keys
  have hpairs : ((all text).dedup.map fun t => (t, (all text).count t)).Nodup :=
    (List.nodup_dedup _).map fun a b hab => congrArg Prod.fst hab
  rw [List.perm_ext_iff_of_nodup (List.Nodup.of_map _ hkeys) hpairs]
  rintro ⟨t, n⟩
  rw [Std.HashMap.mem_toList_iff_getElem?_eq_some, counts, getElem?_tally, List.mem_map]
  constructor
  · intro h
    split at h
    · rename_i hmem
      exact ⟨t, List.mem_dedup.mpr hmem, by rw [Option.some.inj h]⟩
    · cases h
  · rintro ⟨t', hmem, heq⟩
    obtain ⟨rfl, rfl⟩ := Prod.mk.inj heq
    rw [if_pos (List.mem_dedup.mp hmem)]

variable {text : Text} {entries : List (Text × Nat)}

theorem total_of_listed (h : entries.Perm (counts text).toList) :
    Lexical.Index.total (entries.map (·.2)) = (all text).length := by
  have hperm := (h.trans (toList_counts_perm text)).map Prod.snd
  rw [List.map_map] at hperm
  calc Lexical.Index.total (entries.map (·.2)) = (entries.map (·.2)).sum := by
        rw [Lexical.Index.total, List.sum_eq_foldl]
    _ = ((all text).dedup.map fun t => (all text).count t).sum := hperm.sum_eq
    _ = (all text).length := by
        have hbeq : (List.instBEq : BEq Text) = instBEqOfDecidableEq := lawful_beq_subsingleton _ _
        rw [hbeq, List.sum_map_count_dedup_eq_length]

/-- However the terms of a text are listed, each of them is listed once, with its frequency. -/
theorem filter_of_listed (h : entries.Perm (counts text).toList) (t : Text) :
    entries.filter (·.1 = t) = if t ∈ all text then [(t, (all text).count t)] else [] := by
  have hdistinct : (((all text).dedup.map fun t => (t, (all text).count t)).filter (·.1 = t)) =
      if t ∈ all text then [(t, (all text).count t)] else [] := by
    have hterms : (all text).dedup.filter (· = t) = if t ∈ all text then [t] else [] := by
      rw [List.filter_eq]
      split
      · rename_i hmem
        rw [List.count_eq_one_of_mem (List.nodup_dedup _) (List.mem_dedup.mpr hmem)]
        rfl
      · rename_i hmem
        rw [List.count_eq_zero_of_not_mem (fun h => hmem (List.mem_dedup.mp h))]
        rfl
    rw [List.filter_map]
    show List.map _ ((all text).dedup.filter (· = t)) = _
    rw [hterms]
    split <;> rfl
  have hperm := (h.trans (toList_counts_perm text)).filter (·.1 = t)
  rw [hdistinct] at hperm
  split at hperm
  · rename_i hmem
    rw [if_pos hmem]
    exact List.perm_singleton.mp hperm
  · rename_i hmem
    rw [if_neg hmem]
    exact List.perm_nil.mp hperm

end Token

/-! ## Built indexes -/

namespace Lexical

/-- The posting that a document, at its place among the others, has under a term: none unless it holds
the term. -/
def postingOf (term : Text) (entry : Document × Nat) : Option Posting :=
  if term ∈ Token.all entry.1.content then
    some ⟨entry.2, (Token.all entry.1.content).count term⟩
  else none

namespace Index

/-- Indexes made by adding documents one after the other, the counted terms of each in any order. -/
inductive Built : List Document → Index → Prop
  | empty : Built [] Index.empty
  | add {documents : List Document} {index : Index} (document : Document)
      {entries : List (Text × Nat)} :
      Built documents index → entries.Perm (Token.counts document.content).toList →
      Built (documents ++ [document]) (index.addListed document.title entries)

/-- What an index says of its documents: their titles and lengths, and under every term one posting for
each document that holds it, in their order. -/
structure Represents (index : Index) (documents : List Document) : Prop where
  titles : index.titles.toList = documents.map Document.title
  lengths : index.lengths.toList = documents.map fun d => (Token.all d.content).length
  postings : ∀ term, index.find term = documents.zipIdx.filterMap (postingOf term)

variable {documents : List Document} {index : Index}

theorem Represents.size_eq (h : index.Represents documents) : index.size = documents.length := by
  have htitles := congrArg List.length h.titles
  rw [Array.length_toList, List.length_map] at htitles
  exact htitles

theorem toList_getD_foldl_post (place : Nat) (entries : List (Text × Nat))
    (postings : Std.HashMap Text (Array Posting)) (term : Text) :
    ((entries.foldl (post place) postings).getD term #[]).toList =
      (postings.getD term #[]).toList ++
        (entries.filter (·.1 = term)).map fun e => ⟨place, e.2⟩ := by
  induction entries generalizing postings with
  | nil => simp
  | cons entry entries ih =>
      rw [List.foldl_cons, ih, List.filter_cons]
      unfold post
      rw [Std.HashMap.getD_insert]
      by_cases heq : entry.1 = term
      · simp [heq]
      · simp [heq]

/-- Adding a document puts one posting behind those of each of its terms. -/
theorem find_addListed (title : Text) {content : Text} {entries : List (Text × Nat)}
    (h : entries.Perm (Token.counts content).toList) (term : Text) :
    (index.addListed title entries).find term =
      index.find term ++ (postingOf term (⟨title, content⟩, index.size)).toList := by
  unfold find addListed
  rw [toList_getD_foldl_post, Token.filter_of_listed h]
  unfold postingOf
  split <;> rfl

theorem represents_empty : empty.Represents [] := by
  refine ⟨rfl, rfl, ?_⟩
  intro term
  simp [find, empty]

theorem Represents.addListed (h : index.Represents documents) (document : Document)
    {entries : List (Text × Nat)} (hentries : entries.Perm (Token.counts document.content).toList) :
    (index.addListed document.title entries).Represents (documents ++ [document]) := by
  refine ⟨?_, ?_, ?_⟩
  · rw [List.map_append, ← h.titles]
    exact Array.toList_push
  · rw [List.map_append, ← h.lengths, List.map_singleton, ← Token.total_of_listed hentries]
    exact Array.toList_push
  · intro term
    rw [find_addListed document.title hentries, h.postings, h.size_eq, List.zipIdx_append,
      List.filterMap_append, Nat.zero_add]
    congr 1

/-- However the terms were listed, a built index says the same of its documents. -/
theorem Built.represents (h : Built documents index) : index.Represents documents := by
  induction h with
  | empty => exact represents_empty
  | add document _ hentries ih => exact ih.addListed document hentries

theorem built_ofDocuments (documents : List Document) : Built documents (ofDocuments documents) := by
  -- the fold adds at the back, so the induction goes over the documents already added
  have hfold : ∀ rest added index, Built added index →
      Built (added ++ rest) (rest.foldl Index.add index) := by
    intro rest
    induction rest with
    | nil =>
        intro added index h
        rw [List.append_nil]
        exact h
    | cons document rest ih =>
        intro added index h
        rw [List.append_cons]
        exact ih _ _ (.add document h (List.Perm.refl _))
  exact hfold documents [] empty .empty

/-! ## Postings of a term -/

theorem Represents.length_find (h : index.Represents documents) (term : Text) :
    (index.find term).length =
      (documents.map Document.content).countP fun text => (Token.all text).contains term := by
  have hlength : ∀ (xs : List Document) (n : Nat), ((xs.zipIdx n).filterMap (postingOf term)).length =
      (xs.map Document.content).countP fun text => (Token.all text).contains term := by
    intro xs
    induction xs with
    | nil => exact fun _ => rfl
    | cons x xs ih =>
        intro n
        rw [List.zipIdx_cons, List.filterMap_cons, List.map_cons, List.countP_cons, ← ih (n + 1)]
        unfold postingOf
        by_cases hmem : term ∈ Token.all x.content
        · simp [hmem]
        · simp [hmem]
  rw [h.postings, hlength]

/-- A term's postings are those of the documents that hold it, each with its frequency. -/
theorem Represents.mem_find (h : index.Represents documents) (term : Text) (p : Posting) :
    p ∈ index.find term ↔ ∃ document, documents[p.document]? = some document ∧
      term ∈ Token.all document.content ∧ p.frequency = (Token.all document.content).count term := by
  rw [h.postings, List.mem_filterMap]
  constructor
  · rintro ⟨⟨document, place⟩, hmem, hposting⟩
    unfold postingOf at hposting
    split at hposting
    · rename_i hterm
      cases hposting
      exact ⟨document, List.mem_zipIdx_iff_getElem?.mp hmem, hterm, rfl⟩
    · cases hposting
  · rintro ⟨document, hplace, hterm, hfrequency⟩
    refine ⟨(document, p.document), List.mem_zipIdx_iff_getElem?.mpr hplace, ?_⟩
    unfold postingOf
    rw [if_pos hterm, ← hfrequency]

/-- The postings of a term come in the order of their documents. -/
theorem Represents.ascending_find (h : index.Represents documents) (term : Text) :
    (index.find term).Pairwise fun p q => p.document < q.document := by
  rw [h.postings, List.pairwise_filterMap]
  apply (ascending_zipIdx documents).imp
  intro a b hab p hp q hq
  unfold postingOf at hp hq
  split at hp
  · split at hq
    · cases hp
      cases hq
      exact hab
    · cases hq
  · cases hp

end Index

end Lexical

end CodeRetrieval
