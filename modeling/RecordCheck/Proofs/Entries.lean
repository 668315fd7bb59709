import Mathlib.Data.List.Nodup
import RecordCheck.Entries

/-!
Pairs written one after the other. No key is there twice afterwards, every pair that is there was
written, and pairs whose keys are distinct stay as they are.
-/

namespace RecordCheck.Entries

variable {key value : Type} [DecidableEq key]

theorem mem_of_lookup {entries : List (key × value)} {name : key} {item : value}
    (found : entries.lookup name = some item) : (name, item) ∈ entries := by
  obtain ⟨before, after, rfl, _⟩ := List.lookup_eq_some_iff.mp found
  simp

theorem lookup_isSome_of_mem {entries : List (key × value)} {entry : key × value}
    (member : entry ∈ entries) : (entries.lookup entry.1).isSome := by
  rw [Option.isSome_iff_ne_none]
  intro none
  have differs := List.lookup_eq_none_iff.mp none entry member
  simp at differs

theorem mem_keys_iff {entries : List (key × value)} {name : key} :
    name ∈ entries.map Prod.fst ↔ (entries.lookup name).isSome = true := by
  constructor
  · intro member
    obtain ⟨entry, inside, rfl⟩ := List.mem_map.mp member
    exact lookup_isSome_of_mem inside
  · intro found
    obtain ⟨item, found⟩ := Option.isSome_iff_exists.mp found
    exact List.mem_map.mpr ⟨(name, item), mem_of_lookup found, rfl⟩

theorem lookup_of_mem {entries : List (key × value)} (distinct : (entries.map Prod.fst).Nodup)
    {entry : key × value} (member : entry ∈ entries) : entries.lookup entry.1 = some entry.2 := by
  obtain ⟨item, found⟩ := Option.isSome_iff_exists.mp (lookup_isSome_of_mem member)
  have same := List.inj_on_of_nodup_map distinct (mem_of_lookup found) member rfl
  rw [found, ← same]

theorem lookup_perm {entries others : List (key × value)}
    (distinct : (entries.map Prod.fst).Nodup) (moved : entries.Perm others) (name : key) :
    entries.lookup name = others.lookup name := by
  have othersDistinct : (others.map Prod.fst).Nodup := (moved.map Prod.fst).nodup_iff.mp distinct
  cases found : entries.lookup name with
  | none =>
      refine (List.lookup_eq_none_iff.mpr fun entry member => ?_).symm
      exact List.lookup_eq_none_iff.mp found entry (moved.mem_iff.mpr member)
  | some item => exact (lookup_of_mem othersDistinct (moved.mem_iff.mp (mem_of_lookup found))).symm

theorem lookup_cons_of_ne {name known : key} (apart : name ≠ known) (item : value)
    (rest : List (key × value)) : ((known, item) :: rest).lookup name = rest.lookup name := by
  have differs : (name == known) = false := by simpa using apart
  rw [List.lookup_cons, differs]

theorem lookup_replaced (before after : List (key × value)) (item other : value)
    {name known : key} (apart : name ≠ known) :
    (before ++ (known, other) :: after).lookup name =
      (before ++ (known, item) :: after).lookup name := by
  rw [List.lookup_append, List.lookup_append, lookup_cons_of_ne apart, lookup_cons_of_ne apart]

theorem lookup_filter (keep : key → Bool) (name : key) (entries : List (key × value)) :
    (entries.filter fun entry => keep entry.1).lookup name =
      if keep name then entries.lookup name else none := by
  induction entries with
  | nil => simp
  | cons entry rest ih =>
      obtain ⟨known, item⟩ := entry
      by_cases same : name = known
      · subst same
        by_cases kept : keep name = true
        · simp [kept]
        · simpa [kept] using ih
      · rw [List.filter_cons, lookup_cons_of_ne same]
        split
        · rw [lookup_cons_of_ne same, ih]
        · exact ih

omit [DecidableEq key] in
theorem put_of_apart {same : key → key → Bool} {name : key} {entries : List (key × value)}
    (apart : ∀ entry ∈ entries, same entry.1 name = false) (item : value) :
    put same name item entries = entries ++ [(name, item)] := by
  induction entries with
  | nil => rfl
  | cons entry rest ih =>
      obtain ⟨known, old⟩ := entry
      have differs := apart (known, old) List.mem_cons_self
      rw [put, differs, if_neg Bool.false_ne_true,
        ih fun other member => apart other (List.mem_cons_of_mem _ member)]
      rfl

theorem put_of_fresh {name : key} {entries : List (key × value)}
    (fresh : name ∉ entries.map Prod.fst) (item : value) :
    put (· == ·) name item entries = entries ++ [(name, item)] := by
  refine put_of_apart (fun entry member => ?_) item
  have differs : entry.1 ≠ name := fun same => fresh (same ▸ List.mem_map_of_mem member)
  simpa using differs

theorem put_keys_of_known {name : key} {entries : List (key × value)}
    (known : name ∈ entries.map Prod.fst) (item : value) :
    (put (· == ·) name item entries).map Prod.fst = entries.map Prod.fst := by
  induction entries with
  | nil => cases known
  | cons entry rest ih =>
      obtain ⟨first, old⟩ := entry
      rw [put]
      by_cases same : first = name
      · simp [same]
      · have differs : (first == name) = false := by simpa using same
        have later : name ∈ rest.map Prod.fst := by
          rcases List.mem_cons.mp known with equal | later
          · exact absurd equal.symm same
          · exact later
        simp [differs, ih later]

theorem put_nodup {entries : List (key × value)} (distinct : (entries.map Prod.fst).Nodup)
    (name : key) (item : value) : ((put (· == ·) name item entries).map Prod.fst).Nodup := by
  by_cases known : name ∈ entries.map Prod.fst
  · rw [put_keys_of_known known]
    exact distinct
  · rw [put_of_fresh known, List.map_append, List.nodup_append]
    refine ⟨distinct, List.nodup_singleton name, ?_⟩
    intro left leftMember right rightMember same
    rw [List.map_cons, List.map_nil, List.mem_singleton] at rightMember
    rw [same, rightMember] at leftMember
    exact known leftMember

theorem mem_of_mem_put {name : key} {item : value} {entries : List (key × value)}
    {entry : key × value} (member : entry ∈ put (· == ·) name item entries) :
    entry = (name, item) ∨ entry ∈ entries := by
  induction entries with
  | nil => exact Or.inl (List.mem_singleton.mp member)
  | cons first rest ih =>
      obtain ⟨known, old⟩ := first
      rw [put] at member
      split at member
      · rename_i same
        rcases List.mem_cons.mp member with equal | later
        · rw [equal, eq_of_beq same]
          exact Or.inl rfl
        · exact Or.inr (List.mem_cons_of_mem _ later)
      · rcases List.mem_cons.mp member with equal | later
        · exact Or.inr (equal ▸ List.mem_cons_self)
        · rcases ih later with own | old
          · exact Or.inl own
          · exact Or.inr (List.mem_cons_of_mem _ old)

@[simp] theorem lookup_put_same (name : key) (item : value) (entries : List (key × value)) :
    (put (· == ·) name item entries).lookup name = some item := by
  induction entries with
  | nil => simp [put]
  | cons entry rest ih =>
      obtain ⟨known, old⟩ := entry
      rw [put]
      by_cases same : known = name
      · simp [same]
      · have differs : (known == name) = false := by simpa using same
        rw [differs, if_neg Bool.false_ne_true, lookup_cons_of_ne (Ne.symm same), ih]

theorem lookup_put_of_ne {name other : key} (apart : other ≠ name) (item : value)
    (entries : List (key × value)) :
    (put (· == ·) name item entries).lookup other = entries.lookup other := by
  induction entries with
  | nil => exact lookup_cons_of_ne apart item []
  | cons entry rest ih =>
      obtain ⟨known, old⟩ := entry
      rw [put]
      split
      · rename_i same
        have apartKnown : other ≠ known := eq_of_beq same ▸ apart
        rw [lookup_cons_of_ne apartKnown, lookup_cons_of_ne apartKnown]
      · rw [List.lookup_cons, List.lookup_cons, ih]

theorem filter_put (keep : key → Bool) {name : key} (dropped : keep name = false) (item : value)
    (entries : List (key × value)) :
    ((put (· == ·) name item entries).filter fun entry => keep entry.1) =
      entries.filter fun entry => keep entry.1 := by
  induction entries with
  | nil => simp [put, dropped]
  | cons entry rest ih =>
      obtain ⟨known, old⟩ := entry
      rw [put]
      by_cases same : known = name
      · simp [same, dropped]
      · simp [same, List.filter_cons, ih]

section Written

variable {start pairs : List (key × value)}

theorem lookup_foldl_put (name : key) :
    (pairs.foldl (fun entries pair => put (· == ·) pair.1 pair.2 entries) start).lookup name =
      (pairs.reverse ++ start).lookup name := by
  induction pairs generalizing start with
  | nil => rfl
  | cons pair rest ih =>
      rw [List.foldl_cons, ih, List.reverse_cons, List.append_assoc, List.lookup_append,
        List.lookup_append, List.singleton_append]
      congr 1
      by_cases same : name = pair.1
      · rw [same, lookup_put_same, List.lookup_cons_self]
      · rw [lookup_put_of_ne same, lookup_cons_of_ne same]

theorem foldl_put_nodup (distinct : (start.map Prod.fst).Nodup) :
    ((pairs.foldl (fun entries pair => put (· == ·) pair.1 pair.2 entries) start).map
      Prod.fst).Nodup := by
  induction pairs generalizing start with
  | nil => exact distinct
  | cons pair rest ih => exact ih (put_nodup distinct pair.1 pair.2)

theorem mem_of_mem_foldl_put {entry : key × value}
    (member : entry ∈ pairs.foldl (fun entries pair => put (· == ·) pair.1 pair.2 entries) start) :
    entry ∈ pairs ∨ entry ∈ start := by
  induction pairs generalizing start with
  | nil => exact Or.inr member
  | cons pair rest ih =>
      rcases ih member with later | put
      · exact Or.inl (List.mem_cons_of_mem _ later)
      · rcases mem_of_mem_put put with own | old
        · exact Or.inl (own ▸ List.mem_cons_self)
        · exact Or.inr old

omit [DecidableEq key] in
/-- Keys that count as different are all written, in their order. -/
theorem foldl_put_of_pairwise {same : key → key → Bool}
    (apart : (start ++ pairs).Pairwise fun left right => same left.1 right.1 = false) :
    pairs.foldl (fun entries pair => put same pair.1 pair.2 entries) start = start ++ pairs := by
  induction pairs generalizing start with
  | nil => simp
  | cons pair rest ih =>
      have fresh : ∀ entry ∈ start, same entry.1 pair.1 = false := fun entry known =>
        (List.pairwise_append.mp apart).2.2 entry known pair List.mem_cons_self
      rw [List.foldl_cons, put_of_apart fresh, ih (by simpa using apart)]
      simp

theorem foldl_put_of_nodup (distinct : ((start ++ pairs).map Prod.fst).Nodup) :
    pairs.foldl (fun entries pair => put (· == ·) pair.1 pair.2 entries) start =
      start ++ pairs :=
  foldl_put_of_pairwise ((List.pairwise_map.mp distinct).imp fun differs => by simpa using differs)

end Written

theorem ofTexts_nodup (pairs : List (String × value)) : ((ofTexts pairs).map Prod.fst).Nodup :=
  foldl_put_nodup List.nodup_nil

theorem mem_of_mem_ofTexts {pairs : List (String × value)} {entry : String × value}
    (member : entry ∈ ofTexts pairs) : entry ∈ pairs := by
  rcases mem_of_mem_foldl_put member with written | none
  · exact written
  · cases none

/-- Of the pairs of one key the last one counts. -/
theorem lookup_ofTexts (pairs : List (String × value)) (name : String) :
    (ofTexts pairs).lookup name = pairs.reverse.lookup name := by
  rw [ofTexts, ofPairs, lookup_foldl_put, List.append_nil]

theorem lookup_ofTexts_of_last {before after : List (String × value)} {name : String}
    (last : ∀ pair ∈ after, pair.1 ≠ name) (item : value) :
    (ofTexts (before ++ (name, item) :: after)).lookup name = some item := by
  have fresh : after.reverse.lookup name = none := by
    apply List.lookup_eq_none_iff.mpr
    intro pair member
    simpa using Ne.symm (last pair (List.mem_reverse.mp member))
  rw [lookup_ofTexts, List.reverse_append, List.reverse_cons, List.append_assoc,
    List.lookup_append, fresh, Option.none_or]
  exact List.lookup_cons_self

theorem ofTexts_of_nodup {pairs : List (String × value)} (distinct : (pairs.map Prod.fst).Nodup) :
    ofTexts pairs = pairs :=
  foldl_put_of_nodup distinct

theorem firsts_eq_nil {entries : List (key × value)} : firsts entries = [] ↔ entries = [] := by
  cases entries <;> simp [firsts]

theorem firsts_subset (entries : List (key × value)) : firsts entries ⊆ entries := by
  induction entries with
  | nil => exact List.Subset.refl _
  | cons entry rest ih =>
      exact List.cons_subset_cons entry (List.Subset.trans (List.filter_subset_self _) ih)

theorem exists_mem_firsts {entries : List (key × value)} {entry : key × value}
    (member : entry ∈ entries) : ∃ item, (entry.1, item) ∈ firsts entries := by
  induction entries with
  | nil => cases member
  | cons first rest ih =>
      obtain ⟨name, item⟩ := first
      rw [firsts]
      by_cases same : entry.1 = name
      · exact ⟨item, by rw [same]; exact List.mem_cons_self⟩
      · have later : entry ∈ rest := by
          rcases List.mem_cons.mp member with rfl | later
          · exact absurd rfl same
          · exact later
        obtain ⟨kept, inFirsts⟩ := ih later
        refine ⟨kept, List.mem_cons_of_mem _ (List.mem_filter.mpr ⟨inFirsts, ?_⟩)⟩
        simpa using same

theorem firsts_of_nodup {entries : List (key × value)} (distinct : (entries.map Prod.fst).Nodup) :
    firsts entries = entries := by
  induction entries with
  | nil => rfl
  | cons entry rest ih =>
      obtain ⟨name, item⟩ := entry
      obtain ⟨fresh, distinct⟩ := List.nodup_cons.mp distinct
      rw [firsts, ih distinct]
      congr 1
      apply List.filter_eq_self.mpr
      intro other member
      have apart : other.1 ≠ name := by
        intro same
        have again : other.1 ∈ rest.map Prod.fst := List.mem_map_of_mem (f := Prod.fst) member
        rw [same] at again
        exact fresh again
      simpa using apart

theorem filter_firsts (keep : key → Bool) (entries : List (key × value)) :
    (firsts entries).filter (fun entry => keep entry.1) =
      firsts (entries.filter fun entry => keep entry.1) := by
  induction entries with
  | nil => rfl
  | cons entry rest ih =>
      obtain ⟨name, item⟩ := entry
      rw [firsts]
      by_cases kept : keep name = true
      · rw [List.filter_cons_of_pos (by simpa using kept),
          List.filter_cons_of_pos (by simpa using kept), firsts, ← ih, List.filter_comm]
      · rw [List.filter_cons_of_neg (by simpa using kept),
          List.filter_cons_of_neg (by simpa using kept), ← ih, List.filter_filter]
        -- an entry under the name is not kept, so taking it out first makes no difference
        refine List.filter_congr fun other _ => ?_
        by_cases same : other.1 = name
        · simp [same, kept]
        · simp [same]

theorem firsts_map {other : Type} [DecidableEq other] {change : key → other}
    (injective : Function.Injective change) (entries : List (key × value)) :
    firsts (entries.map fun entry => (change entry.1, entry.2)) =
      (firsts entries).map fun entry => (change entry.1, entry.2) := by
  induction entries with
  | nil => rfl
  | cons entry rest ih =>
      obtain ⟨name, item⟩ := entry
      have kept : ((fun pair : other × value => pair.1 != change name) ∘
          fun entry : key × value => (change entry.1, entry.2)) =
            fun entry => entry.1 != name := by
        funext entry
        simp [bne, injective.eq_iff]
      simp only [List.map_cons, firsts, ih, List.filter_map, kept]

/-- Entries none of whose keys was there before are all new. -/
theorem firsts_append {first second : List (key × value)}
    (apart : ∀ one ∈ first, ∀ other ∈ second, one.1 ≠ other.1) :
    firsts (first ++ second) = firsts first ++ firsts second := by
  induction first with
  | nil => rfl
  | cons entry rest ih =>
      obtain ⟨name, item⟩ := entry
      have later := ih fun one member => apart one (List.mem_cons_of_mem _ member)
      have stays : ((firsts second).filter fun pair => pair.1 != name) = firsts second := by
        apply List.filter_eq_self.mpr
        intro other member
        simpa using (apart _ List.mem_cons_self other (firsts_subset second member)).symm
      rw [List.cons_append, firsts, later, List.filter_append, stays, firsts, List.cons_append]

end RecordCheck.Entries
