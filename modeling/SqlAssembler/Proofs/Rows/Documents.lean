import SqlAssembler.Proofs.Rows.Containers

/-!
# Documents built from nothing

Values that are stored one after the other, at paths that part from each other,
build a document. What it holds at a key are the values whose paths begin with
that key, with the rest of their paths; so a document is described from the root
down. A store at one more path finds its way, because the containers on it were
opened for paths that ask for the same kind, and it adds one value to those that
the document is built of.
-/

namespace SqlAssembler
namespace Json

structure Stored where
  path : List String
  value : Json

def Stored.under? (key : String) : Stored → Option Stored
  | ⟨[], _⟩ => none
  | ⟨first :: rest, value⟩ =>
      if meets first key then some ⟨rest, value⟩ else none

def under (key : String) (stored : List Stored) : List Stored :=
  stored.filterMap (Stored.under? key)

/-- The document holds what was stored and nothing else. Every way goes through
containers of the right kind, and there is nothing in a container but what is on
a way or comes before an item on a way. -/
inductive Builds : List Stored → Json → Prop where
  | nothing : Builds [] null
  | value (value : Json) : Builds [⟨[], value⟩] value
  | container {stored : List Stored} {container : Json}
      (nonempty : stored ≠ [])
      (leads : ∀ entry ∈ stored, ∃ key rest, entry.path = key :: rest ∧
        container.takes key = true ∧ (container.item? key).isSome = true)
      (fills : ∀ key, (container.item? key).isSome = true →
        ∃ entry ∈ stored, ∃ other rest, entry.path = other :: rest ∧
          (meets other key = true ∨ Precedes key other))
      (inner : ∀ key, container.takes key = true →
        Builds (under key stored) (container.child key)) :
      Builds stored container

variable {container : Json} {key other : String}

/-!
## Values below a key
-/

theorem mem_under {stored : List Stored} {entry : Stored} :
    entry ∈ under key stored ↔ ∃ first,
      meets first key = true ∧ ⟨first :: entry.path, entry.value⟩ ∈ stored := by
  rw [under, List.mem_filterMap]
  constructor
  · rintro ⟨⟨path, value⟩, hmem, hentry⟩
    cases path with
    | nil => cases hentry
    | cons first rest =>
        rcases Option.ite_none_right_eq_some.mp hentry with ⟨hmeets, hsame⟩
        cases hsame
        exact ⟨first, hmeets, hmem⟩
  · rintro ⟨first, hmeets, hmem⟩
    exact ⟨_, hmem, if_pos hmeets⟩

theorem under_congr (h : meets key other = true)
    (stored : List Stored) : under key stored = under other stored := by
  have hsame : Stored.under? key = Stored.under? other := by
    funext entry
    rcases entry with ⟨_ | ⟨first, rest⟩, value⟩
    · rfl
    · simp only [Stored.under?, meets_congr h first]
  rw [under, under, hsame]

theorem under_concat (other key : String) (rest : List String)
    (stored : List Stored) (value : Json) :
    under other (stored ++ [⟨key :: rest, value⟩]) =
      under other stored ++
        if meets key other then [⟨rest, value⟩] else [] := by
  rw [under, List.filterMap_append]
  by_cases h : meets key other = true <;>
    simp [under, Stored.under?, h]

/-!
## Storing one more value
-/

def mixes : List String → List String → Bool
  | key :: path, other :: otherPath =>
      if meets key other then mixes path otherPath
      else (indexOfKey? key).isSome != (indexOfKey? other).isSome
  | _, _ => false

def Apart (path other : List String) : Prop :=
  overlaps path other = false ∧ mixes path other = false

instance : DecidableRel Apart := fun path other =>
  inferInstanceAs
    (Decidable (overlaps path other = false ∧ mixes path other = false))

theorem Apart.exists_cons {path rest : List String}
    (h : Apart path (key :: rest)) : ∃ first others, path = first :: others ∧
      (indexOfKey? first).isSome = (indexOfKey? key).isSome := by
  cases path with
  | nil => cases h.1
  | cons first others =>
      refine ⟨first, others, rfl, ?_⟩
      by_cases hmeets : meets first key = true
      · exact isSome_index_of_meets hmeets
      · have hmixes := h.2
        rw [mixes, if_neg hmeets] at hmixes
        simpa using hmixes

theorem Apart.tail {first : String} {path rest : List String}
    (h : Apart (first :: path) (key :: rest))
    (hmeets : meets first key = true) : Apart path rest := by
  rcases h with ⟨hoverlaps, hmixes⟩
  rw [overlaps, hmeets, Bool.true_and] at hoverlaps
  rw [mixes, if_pos hmeets] at hmixes
  exact ⟨hoverlaps, hmixes⟩

theorem builds_setChild {stored : List Stored} {rest : List String}
    {value inner filled : Json} (hkey : container.takes key = true)
    (leads : ∀ entry ∈ stored, ∃ first others, entry.path = first :: others ∧
      container.takes first = true ∧ (container.item? first).isSome = true)
    (fills : ∀ other, (container.item? other).isSome = true →
      ∃ entry ∈ stored, ∃ first others, entry.path = first :: others ∧
        (meets first other = true ∨ Precedes other first))
    (builds : ∀ other, container.takes other = true →
      Builds (under other stored) (container.child other))
    (hinner : Builds (under key stored ++ [⟨rest, value⟩]) inner)
    (hset : container.setChild key inner = some filled) :
    Builds (stored ++ [⟨key :: rest, value⟩]) filled := by
  refine .container (by simp) ?_ ?_ ?_
  · intro entry hentry
    simp only [takes_of_setChild hset, isSome_item?_of_setChild hkey hset]
    rcases List.mem_append.mp hentry with hold | hnew
    · rcases leads entry hold with ⟨first, others, hpath, htakes, hitem⟩
      exact ⟨first, others, hpath, htakes, .inl hitem⟩
    · rw [List.mem_singleton.mp hnew]
      exact ⟨key, rest, rfl, hkey, .inr (.inl (meets_self key))⟩
  · intro other hother
    rcases (isSome_item?_of_setChild hkey hset).mp hother with hold | hnew
    · rcases fills other hold with ⟨entry, hentry, hreaches⟩
      exact ⟨entry, List.mem_append_left _ hentry, hreaches⟩
    · exact ⟨⟨key :: rest, value⟩, by simp, key, rest, rfl,
        hnew.imp id And.right⟩
  · intro other hother
    rw [takes_of_setChild hset] at hother
    rw [child_of_setChild hkey hother hset, under_concat]
    by_cases hmeets : meets key other = true
    · rw [if_pos hmeets, if_pos hmeets, ← under_congr hmeets]
      exact hinner
    · rw [if_neg hmeets, if_neg hmeets, List.append_nil]
      exact builds other hother

/-- Nothing that was stored is in the way of a path that parts from all paths
before it and asks for the same containers. -/
theorem Builds.store {stored : List Stored} {slot value filled : Json}
    {path : List String} {found : Bool} (h : Builds stored slot)
    (hapart : ∀ entry ∈ stored, Apart entry.path path)
    (hstore : slot.store path value = some (filled, found)) :
    found = true ∧ Builds (stored ++ [⟨path, value⟩]) filled := by
  induction path generalizing stored slot filled with
  | nil =>
      have hnone : stored = [] := by
        apply List.eq_nil_iff_forall_not_mem.mpr
        rintro ⟨_ | _, _⟩ hentry <;> cases (hapart _ hentry).1
      cases hstore
      rw [hnone]
      exact ⟨rfl, .value _⟩
  | cons key rest ih =>
      have hunder : ∀ entry ∈ under key stored, Apart entry.path rest := by
        intro entry hentry
        rcases mem_under.mp hentry with ⟨first, hmeets, hmem⟩
        exact (hapart _ hmem).tail hmeets
      cases h with
      | nothing =>
          rcases exists_opened_null key with ⟨container, hopened, hitem⟩
          have hkey := takes_of_opened_null hopened
          have hempty : ∀ other, Builds [] (container.child other) := by
            intro other
            rw [child_eq, hitem other]
            exact .nothing
          rcases (store_of_opened_eq_some_iff hopened).mp hstore with
            ⟨inner, hinner, hset⟩
          rcases ih (hempty key) hunder hinner with ⟨hfound, hbuilds⟩
          refine ⟨hfound, builds_setChild hkey (by simp) ?_
            (fun other _ => hempty other) hbuilds hset⟩
          intro other hother
          rw [hitem other] at hother
          cases hother
      | value old => cases (hapart _ List.mem_cons_self).1
      | container nonempty leads fills inner =>
          have hkey : slot.takes key = true := by
            rcases List.exists_mem_of_ne_nil stored nonempty with
              ⟨entry, hentry⟩
            rcases leads entry hentry with ⟨first, _, hpath, htakes, _⟩
            rcases (hapart entry hentry).exists_cons with
              ⟨other, _, hother, hsame⟩
            cases hpath.symm.trans hother
            rw [← takes_congr hsame]
            exact htakes
          rcases (store_of_opened_eq_some_iff (opened_of_takes hkey)).mp hstore
            with ⟨below, hbelow, hset⟩
          rcases ih (inner key hkey) hunder hbelow with ⟨hfound, hbuilds⟩
          exact ⟨hfound, builds_setChild hkey leads fills inner hbuilds hset⟩

/-!
## What a document holds
-/

def nestedItem? (container : Json) (key : String) : Option Json :=
  match container with
  | array items =>
      if isNumeral key then items[Decimal.ofDigits key.toList]? else none
  | object members =>
      if isNumeral key then none else Members.get? members key
  | _ => none

def nested? : Json → List String → Option Json
  | value, [] => some value
  | value, key :: rest =>
      (value.nestedItem? key).bind fun inner => inner.nested? rest

theorem nestedItem?_of_takes (hbounded : Bounded key)
    (h : container.takes key = true) :
    container.nestedItem? key = container.item? key := by
  have hindex := indexOfKey?_of_bounded hbounded
  cases container with
  | array items =>
      rw [takes] at h
      rw [nestedItem?, item?, hindex]
      split <;> rfl
  | object members =>
      rw [takes, hindex] at h
      rw [nestedItem?, item?]
      cases hnumeral : isNumeral key with
      | false => rfl
      | true =>
          rw [hnumeral] at h
          cases h
  | _ => cases h

theorem Builds.nested? {stored : List Stored} {slot : Json}
    (h : Builds stored slot) {path : List String} {value : Json}
    (hmem : ⟨path, value⟩ ∈ stored) (hbounded : ∀ key ∈ path, Bounded key) :
    slot.nested? path = some value := by
  induction path generalizing stored slot with
  | nil =>
      cases h with
      | nothing => cases hmem
      | value old =>
          cases List.mem_singleton.mp hmem
          rfl
      | container nonempty leads fills inner =>
          rcases leads _ hmem with ⟨_, _, hpath, _⟩
          cases hpath
  | cons key rest ih =>
      cases h with
      | nothing => cases hmem
      | value old => cases List.mem_singleton.mp hmem
      | container nonempty leads fills inner =>
          rcases leads _ hmem with ⟨_, _, hpath, htakes, hitem⟩
          cases hpath
          rcases Option.isSome_iff_exists.mp hitem with ⟨next, hnext⟩
          have hbuilds := inner key htakes
          rw [child_eq, hnext] at hbuilds
          rw [Json.nested?,
            nestedItem?_of_takes (hbounded key List.mem_cons_self) htakes,
            hnext]
          exact ih hbuilds (mem_under.mpr ⟨key, meets_self key, hmem⟩)
            fun other hother => hbounded other (List.mem_cons_of_mem _ hother)

theorem Builds.eq_null {slot : Json} (h : Builds [] slot) : slot = null := by
  cases h with
  | nothing => rfl
  | container nonempty => exact absurd rfl nonempty

def IsLeaf (value : Json) : Prop :=
  ∀ key, value.item? key = none

/-- Where a leaf comes from: it is part of a stored value, or fills the place of
an item below the index of another item, which is on a path. -/
inductive Accounted (stored : List Stored) : List String → Json → Prop where
  | part {entry : Stored} {place rest : List String} {leaf : Json}
      (mem : entry ∈ stored)
      (same : List.Forall₂ (fun key other => meets key other = true)
        entry.path place)
      (found : entry.value.read rest = some leaf) :
      Accounted stored (place ++ rest) leaf
  | padding {entry : Stored} {before place rest : List String}
      {key other : String} (mem : entry ∈ stored)
      (path : entry.path = before ++ other :: rest)
      (same : List.Forall₂ (fun key other => meets key other = true)
        before place)
      (lower : Precedes key other) :
      Accounted stored (place ++ [key]) null

theorem accounted_root {value leaf : Json} {address : List String}
    (h : value.read address = some leaf) :
    Accounted [⟨[], value⟩] address leaf := by
  have hpart : Accounted [⟨[], value⟩] ([] ++ address) leaf :=
    .part List.mem_cons_self .nil h
  exact hpart

theorem Accounted.cons {stored : List Stored} {address : List String}
    {leaf : Json} (h : Accounted (under key stored) address leaf) :
    Accounted stored (key :: address) leaf := by
  cases h with
  | @part entry place rest leaf mem same found =>
      rcases mem_under.mp mem with ⟨first, hmeets, hmem⟩
      have hpart : Accounted stored ((key :: place) ++ rest) leaf :=
        .part hmem (.cons hmeets same) found
      exact hpart
  | @padding entry before place rest last other mem path same lower =>
      rcases mem_under.mp mem with ⟨first, hmeets, hmem⟩
      have hpadding : Accounted stored ((key :: place) ++ [last]) null :=
        .padding hmem (congrArg (List.cons first) path) (.cons hmeets same)
          lower
      exact hpadding

theorem Builds.accounted {stored : List Stored} {slot leaf : Json}
    {address : List String} (h : Builds stored slot) (hstored : stored ≠ [])
    (hread : slot.read address = some leaf) (hleaf : leaf.IsLeaf) :
    Accounted stored address leaf := by
  induction address generalizing stored slot with
  | nil =>
      cases hread
      cases h with
      | nothing => exact absurd rfl hstored
      | value old => exact accounted_root rfl
      | container nonempty leads fills inner =>
          -- a container on a way is no leaf
          rcases List.exists_mem_of_ne_nil stored nonempty with ⟨entry, hentry⟩
          rcases leads entry hentry with ⟨key, _, _, _, hitem⟩
          rw [hleaf key] at hitem
          cases hitem
  | cons key rest ih =>
      cases h with
      | nothing => exact absurd rfl hstored
      | value old => exact accounted_root hread
      | container nonempty leads fills inner =>
          rcases Option.bind_eq_some_iff.mp hread with ⟨next, hnext, hrest⟩
          rcases fills key (by rw [hnext]; rfl) with
            ⟨entry, hentry, first, others, hpath, hreaches⟩
          have hsame :
              (indexOfKey? key).isSome = (indexOfKey? first).isSome := by
            rcases hreaches with hmeets | ⟨_, _, hkey, hfirst, _⟩
            · exact (isSome_index_of_meets hmeets).symm
            · rw [hkey, hfirst]
              rfl
          have htakes : slot.takes key = true := by
            rcases leads entry hentry with ⟨_, _, hother, htakes, _⟩
            cases hpath.symm.trans hother
            rw [takes_congr hsame]
            exact htakes
          have hbuilds := inner key htakes
          rw [child_eq, hnext] at hbuilds
          by_cases hunder : under key stored = []
          · -- the item is on no way, so it is a null before one that is
            have hlower : Precedes key first := by
              refine hreaches.resolve_left fun hmeets => ?_
              have hmem : ⟨others, entry.value⟩ ∈ under key stored :=
                mem_under.mpr ⟨first, hmeets, hpath ▸ hentry⟩
              rw [hunder] at hmem
              cases hmem
            rw [hunder] at hbuilds
            have hnull : next = null := hbuilds.eq_null
            subst hnull
            cases rest with
            | nil =>
                cases hrest
                have hpadding : Accounted stored ([] ++ [key]) null :=
                  .padding hentry hpath .nil hlower
                exact hpadding
            | cons later address => cases hrest
          · exact (ih hbuilds hunder hrest).cons

end Json
end SqlAssembler
