import JsonTemplate.Proofs.Spec.Loading

/-!
# Routes

While a loader is at work, the files being loaded are a route through the files that use one
another: each of them uses the next, and none comes twice. That holds for all files, whether or not
they can be loaded; a route to a file that has a use tree is a trail.
-/

namespace JsonTemplate

open Relation (ReflTransGen TransGen)

variable {files : SpecFiles}

namespace UseTree

open Loader (ProperUses Uses)

theorem exists_used {directory : Location} {uses : List String} {ts : List UseTree}
    (hts : uses.map (directory.locate files.homes) = ts.map fun t => .ok t.location) {use : String}
    (huse : use ∈ uses) : ∃ t ∈ ts, directory.locate files.homes use = .ok t.location := by
  have hmem : directory.locate files.homes use ∈ ts.map fun t => .ok t.location :=
    hts ▸ List.mem_map_of_mem huse
  obtain ⟨t, ht, hlocation⟩ := List.mem_map.mp hmem
  exact ⟨t, ht, hlocation.symm⟩

theorem exists_below {t : UseTree} (h : t.IsIn files) {l : Location}
    (hl : Uses files t.location l) :
    ∃ t' : UseTree, t'.location = l ∧ t'.IsIn files ∧ sizeOf t' < sizeOf t := by
  obtain ⟨l₀, own, used⟩ := t
  obtain ⟨hown, hused, hall⟩ := h
  obtain ⟨own', hown', use, huse, hlocate⟩ := hl
  cases hown.symm.trans hown'
  obtain ⟨t', ht', hlocation⟩ := exists_used hused huse
  refine ⟨t', Except.ok.inj (hlocation.symm.trans hlocate), allIn_iff.mp hall t' ht', ?_⟩
  have hsize := List.sizeOf_lt_of_mem ht'
  rw [node.sizeOf_spec]
  omega

theorem exists_below_of_transGen {t : UseTree} (h : t.IsIn files) {l : Location}
    (hl : TransGen (Uses files) t.location l) :
    ∃ t' : UseTree, t'.location = l ∧ t'.IsIn files ∧ sizeOf t' < sizeOf t := by
  induction hl with
  | single hl => exact exists_below h hl
  | tail _ hl ih =>
    obtain ⟨t', rfl, ht', hsize⟩ := ih
    obtain ⟨t'', hlocation, ht'', hsize'⟩ := exists_below ht' hl
    exact ⟨t'', hlocation, ht'', by omega⟩

/-- A file with a use tree has proper uses. -/
theorem properUses {t : UseTree} (h : t.IsIn files) : ProperUses files t.location := by
  have hreached : ∀ l, ReflTransGen (Uses files) t.location l →
      ∃ t' : UseTree, t'.location = l ∧ t'.IsIn files := by
    intro l hl
    obtain rfl | hl := Relation.reflTransGen_iff_eq_or_transGen.mp hl
    · exact ⟨t, rfl, h⟩
    · obtain ⟨t', hlocation, ht', -⟩ := exists_below_of_transGen h hl
      exact ⟨t', hlocation, ht'⟩
  constructor
  case readable =>
    intro l hl
    obtain ⟨⟨l', own, used⟩, rfl, hown, -⟩ := hreached l hl
    exact ⟨own, hown⟩
  case located =>
    intro l hl own hown use huse
    obtain ⟨⟨l', own', used⟩, rfl, hown', hused, -⟩ := hreached l hl
    cases hown.symm.trans hown'
    obtain ⟨t', -, hlocation⟩ := exists_used hused huse
    exact ⟨t'.location, hlocation⟩
  case acyclic =>
    intro l hl hcycle
    obtain ⟨t', rfl, ht'⟩ := hreached l hl
    -- the tree below would be the whole tree again
    obtain ⟨t'', hlocation, ht'', hsize⟩ := exists_below_of_transGen ht' hcycle
    rw [eq_of_location t'' t' ht'' ht' hlocation] at hsize
    omega

end UseTree

namespace Loader

/-- The files that are being loaded, innermost first, when `l` comes to be loaded. -/
structure Route (files : SpecFiles) (trail : List Location) (l : Location) : Prop where
  direct : l.IsDirect
  nodup : trail.Nodup
  listed : ∀ q ∈ trail, q ∈ Assoc.keys files.tree.entries
  linked : (l :: trail).IsChain fun q p => Uses files p q

variable {trail : List Location} {l l' : Location}

theorem Route.start (hl : l.IsDirect) : Route files [] l where
  direct := hl
  nodup := List.nodup_nil
  listed := nofun
  linked := .singleton l

theorem Route.length_le (h : Route files trail l) : trail.length ≤ files.tree.entries.length := by
  have hlength := (List.subperm_of_subset h.nodup h.listed).length_le
  rwa [Assoc.keys, List.length_map] at hlength

theorem Route.cons (h : Route files trail l) (hl : l ∉ trail) (huses : Uses files l l') :
    Route files (l :: trail) l' := by
  obtain ⟨own, hown, use, huse, hlocate⟩ := id huses
  constructor
  case direct => exact h.direct.parent.locate hlocate
  case nodup => exact List.nodup_cons.mpr ⟨hl, h.nodup⟩
  case listed =>
    intro q hq
    obtain rfl | hq := List.mem_cons.mp hq
    · exact mem_keys_of_readSpec h.direct hown
    · exact h.listed q hq
  case linked => exact .cons_cons huses h.linked

theorem transGen_of_isChain {α : Type} {r : α → α → Prop} {a : α} {as : List α}
    (h : (a :: as).IsChain r) : ∀ b ∈ as, TransGen r a b := by
  have hpairwise : (a :: as).Pairwise (TransGen r) :=
    List.isChain_iff_pairwise.mp (h.imp fun _ _ => .single)
  exact fun b hb => List.rel_of_pairwise_cons hpairwise hb

theorem Trail.of_route (h : Route files trail l) (hproper : ProperUses files l) :
    Trail files trail l where
  direct := h.direct
  proper := hproper
  nodup := h.nodup
  listed := h.listed
  uses q hq := Relation.transGen_swap.mp (transGen_of_isChain h.linked q hq)

end Loader

end JsonTemplate
