/-
# CodeRetrieval.Proofs.ResponseOrder — which vector of a response a text gets.

Items that all tell an index are put into the order of their indices, items of one index as they came;
any other items stay as they came.  The place of a vector is then the index of its item exactly if the
indices number the texts, each text once.  Nothing checks that they do: a response of the right length
is accepted with any indices, so an index that is repeated or too great shifts vectors to other texts.
-/
import CodeRetrieval.Proofs.RetryProtocol

namespace CodeRetrieval.Client

variable {items : List Item} {vectors : List (List Binary64)} {item : Item}

/-! ## Indices and places -/

/-- At every place stands the vector of an item whose index is the place. -/
def InPlace (items : List Item) (vectors : List (List Binary64)) : Prop :=
  ∀ place < items.length, ∃ item ∈ items, item.index = some place ∧ vectors[place]? = some item.vector

/-- The indices number the texts: every place is the index of one item. -/
def Numbered (items : List Item) : Prop :=
  (items.map Item.index).Perm ((List.range items.length).map some)

/-- Items whose indices reach every place have each place for an index once, as they are no more than
there are places. -/
theorem InPlace.numbered (h : InPlace items vectors) : Numbered items := by
  have hsubset : (List.range items.length).map some ⊆ items.map Item.index := by
    intro index hindex
    obtain ⟨place, hplace, rfl⟩ := List.mem_map.mp hindex
    obtain ⟨item, hitem, hnumber, _⟩ := h place (List.mem_range.mp hplace)
    exact List.mem_map.mpr ⟨item, hitem, hnumber⟩
  have hnodup : ((List.range items.length).map some).Nodup :=
    List.nodup_range.map (Option.some_injective Nat)
  have hlength : (items.map Item.index).length ≤ ((List.range items.length).map some).length := by
    simp
  exact ((List.subperm_of_subset hnodup hsubset).perm_of_length_le hlength).symm

/-! ## The arranged items -/

theorem arrange_perm (items : List Item) : (arrange items).Perm items := by
  unfold arrange
  split
  · exact List.mergeSort_perm _ _
  · exact List.Perm.refl items

/-- Items of which one has no index stay as they came. -/
theorem arrange_of_mem_unnumbered (hitem : item ∈ items) (h : item.index = none) :
    arrange items = items := by
  have hall : ¬ items.all (·.index.isSome) = true := by
    rw [List.all_eq_true]
    intro hall
    simpa [h] using hall item hitem
  exact if_neg hall

/-- Items that all have one stand in the order of their indices. -/
theorem pairwise_arrange (h : ∀ item ∈ items, item.index ≠ none) :
    (arrange items).Pairwise fun a b => a.index.getD 0 ≤ b.index.getD 0 := by
  have hall : items.all (·.index.isSome) = true := by
    rw [List.all_eq_true]
    intro item hitem
    exact Option.isSome_iff_ne_none.mpr (h item hitem)
  unfold arrange
  rw [if_pos hall]
  have hsorted : (items.mergeSort fun a b => a.index.getD 0 ≤ b.index.getD 0).Pairwise fun a b =>
      decide (a.index.getD 0 ≤ b.index.getD 0) = true := by
    apply List.pairwise_mergeSort
    · intro a b c hab hbc
      rw [decide_eq_true_eq] at hab hbc ⊢
      exact Nat.le_trans hab hbc
    · intro a b
      simpa using Nat.le_total (a.index.getD 0) (b.index.getD 0)
  exact hsorted.imp decide_eq_true_iff.mp

/-- Indices that number the texts are the places of the arranged items. -/
theorem Numbered.map_index_arrange (h : Numbered items) :
    (arrange items).map Item.index = (List.range items.length).map some := by
  have hindex : ∀ item ∈ items, item.index ≠ none := by
    intro item hitem hnone
    have hmem := h.subset (List.mem_map_of_mem hitem)
    rw [hnone] at hmem
    simp at hmem
  have hperm : ((arrange items).map Item.index).Perm ((List.range items.length).map some) :=
    ((arrange_perm items).map Item.index).trans h
  have hsorted : ((arrange items).map Item.index).Pairwise fun a b => a.getD 0 ≤ b.getD 0 :=
    List.pairwise_map.mpr (pairwise_arrange hindex)
  refine hperm.eq_of_pairwise ?_ hsorted (List.pairwise_map.mpr List.pairwise_le_range)
  intro a b ha hb hab hba
  obtain ⟨m, _, rfl⟩ := List.mem_map.mp (hperm.subset ha)
  obtain ⟨n, _, rfl⟩ := List.mem_map.mp hb
  exact congrArg some (Nat.le_antisymm hab hba)

theorem Numbered.inPlace (h : Numbered items) :
    InPlace items ((arrange items).map Item.vector) := by
  intro place hplace
  have hat : ((arrange items).map Item.index)[place]? = some (some place) := by
    rw [h.map_index_arrange]
    simp [hplace]
  rw [List.getElem?_map, Option.map_eq_some_iff] at hat
  obtain ⟨item, hitem, hindex⟩ := hat
  refine ⟨item, (arrange_perm items).subset (List.mem_of_getElem? hitem), hindex, ?_⟩
  rw [List.getElem?_map, hitem, Option.map_some]

/-! ## Responses -/

/-- What the vectors of a response have to do with its items.  There is one for each.  If every item has
an index, the vectors stand in their places exactly if the indices number the texts; if none has one, or
not every item, the vectors stand as the items came. -/
structure Attributed (items : List Item) (vectors : List (List Binary64)) : Prop where
  length : vectors.length = items.length
  inPlace_iff : (∀ item ∈ items, item.index ≠ none) → (InPlace items vectors ↔ Numbered items)
  asArrived : ((∀ item ∈ items, item.index = none) ∨ ∃ item ∈ items, item.index = none) →
    vectors = items.map Item.vector

theorem attributed_arrange (items : List Item) :
    Attributed items ((arrange items).map Item.vector) := by
  refine ⟨?_, ?_, ?_⟩
  · rw [List.length_map, (arrange_perm items).length_eq]
  · exact fun _ => ⟨InPlace.numbered, Numbered.inPlace⟩
  · rintro (hnone | ⟨item, hitem, hnone⟩)
    · cases items with
      | nil => rw [List.perm_nil.mp (arrange_perm [])]
      | cons item items =>
          rw [arrange_of_mem_unnumbered List.mem_cons_self (hnone item List.mem_cons_self)]
    · rw [arrange_of_mem_unnumbered hitem hnone]

/-- A response is accepted exactly if it can be read and has an item for each text; then each text gets a
vector, and if every item tells an index, the vectors are those of the indices exactly if the indices
number the texts.  A response that is not accepted fails for good. -/
theorem vectors_inPlace_iff_numbered (body : Text) (expected : Nat) :
    ((∃ vectors, readResponse body expected = .ok vectors) ↔
      ∃ items, readItems body = some items ∧ items.length = expected) ∧
    (∀ vectors, readResponse body expected = .ok vectors →
      ∃ items, readItems body = some items ∧ items.length = expected ∧ Attributed items vectors) ∧
    ∀ failure, readResponse body expected = .error failure →
      (∃ fault, failure = .embedding fault) ∧ failure.isRetryable = false := by
  refine ⟨⟨?_, ?_⟩, ?_, fun failure => lasting_of_readResponse⟩
  · rintro ⟨vectors, hvectors⟩
    obtain ⟨items, hitems, hlength, _⟩ := readResponse_eq_ok_iff.mp hvectors
    exact ⟨items, hitems, hlength⟩
  · rintro ⟨items, hitems, hlength⟩
    exact ⟨_, readResponse_eq_ok_iff.mpr ⟨items, hitems, hlength, rfl⟩⟩
  · intro vectors hvectors
    obtain ⟨items, hitems, hlength, rfl⟩ := readResponse_eq_ok_iff.mp hvectors
    exact ⟨items, hitems, hlength, attributed_arrange items⟩

/-- The body of a response of two items with the given digits for indices.  The vector of the first one
has no coordinate, that of the second one has one. -/
def twoItems (first second : Char) : Text :=
  "\x7b\"data\":[\x7b\"index\":".toList ++ first ::
    ",\"embedding\":[]\x7d,\x7b\"index\":".toList ++ second :: ",\"embedding\":[0]\x7d]\x7d".toList

/-- Items that came in the wrong order are put right. -/
theorem crossed_vectors_are_inPlace :
    ∃ items vectors, readItems (twoItems '1' '0') = some items ∧
      readResponse (twoItems '1' '0') 2 = .ok vectors ∧
      ((∀ item ∈ items, item.index ≠ none) ∧ Numbered items) ∧ InPlace items vectors := by
  have hread : (readItems (twoItems '1' '0')).map (·.map Item.index) = some [some 1, some 0] := by
    decide +kernel
  obtain ⟨items, hitems, hindices⟩ := Option.map_eq_some_iff.mp hread
  have hlength : items.length = 2 := by
    rw [← List.length_map Item.index, hindices]
    rfl
  have hevery : ∀ item ∈ items, item.index ≠ none := by
    intro item hitem hnone
    have hmem := List.mem_map_of_mem (f := Item.index) hitem
    rw [hindices, hnone] at hmem
    simp at hmem
  have hnumbered : Numbered items := by
    unfold Numbered
    rw [hindices, hlength]
    decide
  obtain ⟨haccepts, hvectors, _⟩ := vectors_inPlace_iff_numbered (twoItems '1' '0') 2
  obtain ⟨vectors, hok⟩ := haccepts.mpr ⟨items, hitems, hlength⟩
  obtain ⟨items', hitems', _, hattributed⟩ := hvectors vectors hok
  obtain rfl : items = items' := Option.some.inj (hitems.symm.trans hitems')
  exact ⟨items, vectors, hitems, hok, ⟨hevery, hnumbered⟩, (hattributed.inPlace_iff hevery).mpr hnumbered⟩

/-- Two items that count the texts from one are accepted: the vector of the item with index one goes to
the text at place zero, and the text at place one gets that of the item with index two. -/
theorem shifted_vectors_are_accepted :
    ∃ a b : Item, readItems (twoItems '1' '2') = some [a, b] ∧
      readResponse (twoItems '1' '2') 2 = .ok [a.vector, b.vector] ∧
      a.index = some 1 ∧ b.index = some 2 ∧ a.vector ≠ b.vector ∧
      ¬ InPlace [a, b] [a.vector, b.vector] := by
  have hread : (readItems (twoItems '1' '2')).map (·.map fun item => (item.index, item.vector.length)) =
      some [(some 1, 0), (some 2, 1)] := by
    decide +kernel
  obtain ⟨items, hitems, hpairs⟩ := Option.map_eq_some_iff.mp hread
  obtain ⟨a, rest, rfl, ha, hrest⟩ := List.map_eq_cons_iff.mp hpairs
  obtain ⟨b, rest, rfl, hb, hnil⟩ := List.map_eq_cons_iff.mp hrest
  obtain rfl := List.map_eq_nil_iff.mp hnil
  obtain ⟨haindex, halength⟩ := Prod.mk.inj ha
  obtain ⟨hbindex, hblength⟩ := Prod.mk.inj hb
  have harranged : arrange [a, b] = [a, b] := by
    have hall : [a, b].all (·.index.isSome) = true := by simp [haindex, hbindex]
    unfold arrange
    rw [if_pos hall]
    exact List.mergeSort_of_pairwise (by simp [haindex, hbindex])
  refine ⟨a, b, hitems, ?_, haindex, hbindex, ?_, ?_⟩
  · exact readResponse_eq_ok_iff.mpr ⟨[a, b], hitems, rfl, by rw [harranged]; rfl⟩
  · intro hsame
    rw [hsame, hblength] at halength
    cases halength
  · intro hplaces
    -- no item has the index of the first place
    obtain ⟨item, hitem, hindex, _⟩ := hplaces 0 Nat.zero_lt_two
    simp only [List.mem_cons, List.not_mem_nil, or_false] at hitem
    rcases hitem with rfl | rfl
    · simp [haindex] at hindex
    · simp [hbindex] at hindex

end CodeRetrieval.Client
