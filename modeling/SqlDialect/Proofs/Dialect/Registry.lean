import Mathlib.Data.List.Induction
import Mathlib.Data.String.Basic
import SqlDialect.Dialect
import SqlDialect.Proofs.Url.Scheme

/-!
# Looking dialects up

A registry has the keys of the entries that it was built from, in ascending order, and under each
the dialect of the last entry with that key.  The scheme of a connection URL stands for one key,
and where the part in front of the first plus sign has no points, no other scheme stands for it.
-/

namespace SqlDialect.Registry

/-! ## Entries in order -/

/-- The keys ascend. -/
def Ascending (entries : List (String × Dialect)) : Prop :=
  (entries.map Prod.fst).Pairwise (· < ·)

section

variable {key k : String} {d : Dialect} {entries : List (String × Dialect)}

/-- Inserting an entry adds its key. -/
theorem mem_keys_insert :
  k ∈ (insert key d entries).map Prod.fst ↔ k = key ∨ k ∈ entries.map Prod.fst
  := by
  induction entries with
  | nil => simp [insert]
  | cons entry rest ih =>
    rw [insert]
    split
    · simp
    · split
      next heq => simp [heq]
      next =>
        rw [List.map_cons, List.mem_cons, ih, List.map_cons, List.mem_cons]
        apply or_left_comm

/-- The keys ascend when an entry is inserted. -/
theorem Ascending.insert (h : Ascending entries) :
  Ascending (insert key d entries)
  := by
  induction entries with
  | nil => simp [Registry.insert, Ascending]
  | cons entry rest ih =>
    obtain ⟨hfirst, hrest⟩ := List.pairwise_cons.mp h
    rw [Registry.insert]
    split
    next hlt =>
      apply List.pairwise_cons.mpr ⟨?_, h⟩
      intro k hk
      obtain rfl | hk := List.mem_cons.mp hk
      · apply hlt
      · apply String.lt_trans hlt (hfirst k hk)
    next hnlt =>
      split
      next heq =>
        subst heq
        apply h
      next hne =>
        apply List.pairwise_cons.mpr ⟨?_, ih hrest⟩
        intro k hk
        obtain rfl | hk := mem_keys_insert.mp hk
        · apply lt_of_le_of_ne (not_lt.mp hnlt) (Ne.symm hne)
        · apply hfirst k hk

/-- The first entry is looked at before the others. -/
theorem find?_cons :
  (mk ((key, d) :: entries)).find? k = if k = key then some d else (mk entries).find? k
  := by
  rw [find?, find?, List.find?_cons]
  by_cases h : k = key
  · simp [h]
  · simp [h, Ne.symm h]

/-- The entry that was inserted last is found under its key. -/
theorem find?_insert :
  (mk (insert key d entries)).find? k = if k = key then some d else (mk entries).find? k
  := by
  induction entries with
  | nil => apply find?_cons
  | cons entry rest ih =>
    obtain ⟨first, e⟩ := entry
    rw [insert]
    split
    · apply find?_cons
    · split
      next heq =>
        rw [find?_cons, find?_cons, heq]
        split <;> rfl
      next hne =>
        rw [find?_cons, find?_cons, ih]
        split
        next hk => rw [if_neg (hk ▸ Ne.symm hne)]
        next => rfl

end

/-! ## Registries of entries -/

section

variable {entries : List (String × Dialect)} {key : String} {d : Dialect}

/-- The last entry is inserted into the registry of those before it. -/
theorem ofList_concat (entries : List (String × Dialect)) (key : String) (d : Dialect) :
  ofList (entries ++ [(key, d)]) = ⟨insert key d (ofList entries).entries⟩
  := by
  rw [ofList, List.foldl_append]
  rfl

/-- The keys of a registry that was built from entries ascend. -/
theorem ascending_ofList (entries : List (String × Dialect)) :
  Ascending (ofList entries).entries
  := by
  induction entries using List.reverseRecOn with
  | nil => apply List.Pairwise.nil
  | append_singleton front entry ih =>
    rw [ofList_concat]
    apply ih.insert

/-- The keys of a registry are those of its entries. -/
theorem mem_keys_ofList :
  key ∈ (ofList entries).keys ↔ key ∈ entries.map Prod.fst
  := by
  induction entries using List.reverseRecOn with
  | nil => rfl
  | append_singleton front entry ih =>
    rw [ofList_concat, keys, mem_keys_insert]
    rw [keys] at ih
    rw [ih, List.map_append, List.mem_append, List.map_singleton, List.mem_singleton, or_comm]

/-- The dialect is that of the last entry with the key. -/
def LastUnder (key : String) (d : Dialect) (entries : List (String × Dialect)) : Prop :=
  ∃ front back, entries = front ++ (key, d) :: back ∧ key ∉ back.map Prod.fst

/-- The last of the entries with a key is found under it. -/
theorem find?_ofList :
  (ofList entries).find? key = (mk entries.reverse).find? key
  := by
  induction entries using List.reverseRecOn with
  | nil => rfl
  | append_singleton front entry ih =>
    rw [ofList_concat, find?_insert, ih, List.reverse_concat, find?_cons]

/-- The last entry with a key is found under it. -/
theorem find?_ofList_eq_some_iff :
  (ofList entries).find? key = some d ↔ LastUnder key d entries
  := by
  have hnone : ∀ others : List (String × Dialect),
      (∀ entry ∈ others, !decide (entry.1 = key)) ↔ key ∉ others.map Prod.fst := by
    intro others
    constructor
    · intro h hkey
      obtain ⟨entry, hentry, rfl⟩ := List.mem_map.mp hkey
      simpa using h entry hentry
    · intro h entry hentry
      rw [Bool.not_eq_true', decide_eq_false_iff_not]
      rintro rfl
      apply h (List.mem_map_of_mem hentry)
  rw [find?_ofList, find?, Option.map_eq_some_iff]
  constructor
  · rintro ⟨⟨k, d⟩, hentry, rfl⟩
    obtain ⟨hkey, back, front, hentries, hback⟩ := List.find?_eq_some_iff_append.mp hentry
    obtain rfl : k = key := by simpa using hkey
    refine ⟨front.reverse, back.reverse, ?_, ?_⟩
    · rw [List.reverse_eq_iff.mp hentries, List.reverse_append, List.reverse_cons,
        List.append_assoc, List.singleton_append]
    · rw [List.map_reverse, List.mem_reverse, ← hnone]
      apply hback
  · rintro ⟨front, back, rfl, hback⟩
    refine ⟨(key, d), ?_, rfl⟩
    apply List.find?_eq_some_iff_append.mpr
    refine ⟨by simp, back.reverse, front.reverse, ?_, ?_⟩
    · rw [List.reverse_append, List.reverse_cons, List.append_assoc, List.singleton_append]
    · rw [hnone, List.map_reverse, List.mem_reverse]
      apply hback

end

/-! ## Loading -/

section

variable {r : Registry} {key : String}

/-- A registry contains its keys. -/
theorem contains_iff :
  r.contains key ↔ key ∈ r.keys
  := by
  rw [contains, find?, Option.isSome_map, List.find?_isSome, keys, List.mem_map]
  simp

/-- A dialect is loaded just when it is found. -/
theorem load_eq_ok_iff {d : Dialect} :
  r.load key = .ok d ↔ r.find? key = some d
  := by
  rw [load]
  split
  next e he => simp [Report.ok, he]
  next hnone => simp [Report.ok, Report.fail, hnone]

/-- Loading succeeds just when the key is contained. -/
theorem isOk_load :
  (r.load key).result.isOk = r.contains key
  := by
  rw [load, contains]
  split
  next e he => rw [he]; rfl
  next hnone => rw [hnone]; rfl

end

/-! ## Keys of schemes -/

/-- The key of a family and a driver. -/
def keyOf (family driver : List Char) : String := String.ofList (family ++ '.' :: driver)

/-- The URL has the family in front of the first plus sign of its scheme, and the driver behind. -/
def Asks (url : String) (family driver : List Char) : Prop :=
  Url.scheme url.toList = .ok (family ++ '+' :: driver) ∧ '+' ∉ family

/-- The key is that of the parts before and behind the first plus sign. -/
theorem keyOfScheme?_append {family : List Char} (h : '+' ∉ family) (driver : List Char) :
  keyOfScheme? (family ++ '+' :: driver) = some (keyOf family driver)
  := by
  rw [keyOfScheme?, Url.span_ne_append_cons h]
  rfl

/-- A scheme without a plus sign has no key. -/
theorem keyOfScheme?_of_not_mem {scheme : List Char} (h : '+' ∉ scheme) :
  keyOfScheme? scheme = none
  := by
  rw [keyOfScheme?, Url.span_ne_of_not_mem h]

/-- The family stands in front of the first point of its key when it has none. -/
theorem keyOf_inj {family family' driver driver' : List Char} (h : '.' ∉ family)
    (h' : '.' ∉ family') (heq : keyOf family driver = keyOf family' driver') :
  family = family' ∧ driver = driver'
  := by
  have hparts := congrArg (List.span (· ≠ '.')) (String.ofList_injective heq)
  rw [Url.span_ne_append_cons h, Url.span_ne_append_cons h'] at hparts
  obtain ⟨hfamily, hbehind⟩ := Prod.mk.inj hparts
  exact ⟨hfamily, (List.cons.inj hbehind).2⟩

/-! ## Dialects of URLs -/

/-- The dialect that a registry has for a URL. -/
structure Follows (r : Registry) (url : String) : Prop where
  of_asks : ∀ family driver, Asks url family driver →
    r.fromUrl url = r.load (keyOf family driver)
  of_no_plus : ∀ scheme, Url.scheme url.toList = .ok scheme → '+' ∉ scheme →
    (r.fromUrl url).result.isOk = false
  of_error : ∀ fault, Url.scheme url.toList = .error fault → (r.fromUrl url).result.isOk = false

/-- The dialect for a URL is the one under the key of its scheme, if there is such a key. -/
theorem follows (r : Registry) (url : String) :
  r.Follows url
  where
  of_asks := by
    rintro family driver ⟨hscheme, hfamily⟩
    rw [fromUrl, hscheme]
    dsimp only
    rw [keyOfScheme?_append hfamily]
  of_no_plus := by
    intro scheme hscheme hplus
    rw [fromUrl, hscheme]
    dsimp only
    rw [keyOfScheme?_of_not_mem hplus]
    rfl
  of_error := by
    intro fault hscheme
    rw [fromUrl, hscheme]
    rfl

/-- A registry that was built from entries. -/
structure BuiltFrom (r : Registry) (entries : List (String × Dialect)) : Prop where
  keys_ascend : r.keys.Pairwise (· < ·)
  mem_keys_iff : ∀ key, key ∈ r.keys ↔ key ∈ entries.map Prod.fst
  contains_iff : ∀ key, r.contains key ↔ key ∈ entries.map Prod.fst
  isOk_load : ∀ key, (r.load key).result.isOk = r.contains key
  load_eq_ok_iff : ∀ key d, r.load key = .ok d ↔ LastUnder key d entries

/-- A registry that is built entry by entry is one that was built from them. -/
theorem builtFrom_ofList (entries : List (String × Dialect)) :
  (ofList entries).BuiltFrom entries
  where
  keys_ascend := ascending_ofList entries
  mem_keys_iff _ := mem_keys_ofList
  contains_iff _ := by rw [contains_iff, mem_keys_ofList]
  isOk_load _ := isOk_load
  load_eq_ok_iff _ _ := by rw [load_eq_ok_iff, find?_ofList_eq_some_iff]

/-- A family and a driver that make a scheme in lower case are asked for by a URL. -/
theorem asks_of_isLowerScheme {family driver host : List Char} (hfamily : '+' ∉ family)
    (hscheme : Url.IsLowerScheme (family ++ '+' :: driver))
    (hhost : ∀ c ∈ host, Url.isSchemeChar c) :
  Asks (String.ofList (family ++ '+' :: driver ++ "://".toList ++ host)) family driver
  := by
  refine ⟨?_, hfamily⟩
  have hread := Url.scheme_of_isLowerScheme hhost hscheme (by simp)
  rw [String.toList_ofList, ← hread]
  simp

/-- A registry has the keys of its entries in ascending order, each with the dialect of the last
entry with it.  A URL selects the key of its scheme, in which the first plus sign is a point; URLs
whose families have no points select the same key only when their schemes are the same; and every
key is selected by its scheme when that is in lower case. -/
theorem lookups_agree :
  (∀ entries, (ofList entries).BuiltFrom entries)
    ∧ (∀ (r : Registry) url, r.Follows url)
    ∧ (∀ text scheme, Url.scheme text = .ok scheme → ∃ name behind,
      Url.clean text = name ++ ':' :: behind ∧ Url.IsSchemeName name
        ∧ scheme = name.map Char.toLower)
    ∧ (∀ url url' family family' driver driver', Asks url family driver →
      Asks url' family' driver' → '.' ∉ family → '.' ∉ family' →
      keyOf family driver = keyOf family' driver' →
      Url.scheme url.toList = Url.scheme url'.toList)
    ∧ ∀ entries family driver d, LastUnder (keyOf family driver) d entries → '+' ∉ family →
      Url.IsLowerScheme (family ++ '+' :: driver) →
      (∀ url, Asks url family driver → (ofList entries).fromUrl url = .ok d)
        ∧ ∀ host, (∀ c ∈ host, Url.isSchemeChar c) →
          Asks (String.ofList (family ++ '+' :: driver ++ "://".toList ++ host)) family driver
  := by
  refine ⟨builtFrom_ofList, follows, fun _ _ => Url.scheme_eq_ok, ?_, ?_⟩
  · intro url url' family family' driver driver' hasks hasks' hfamily hfamily' hkey
    obtain ⟨rfl, rfl⟩ := keyOf_inj hfamily hfamily' hkey
    rw [hasks.1, hasks'.1]
  · intro entries family driver d hlast hfamily hscheme
    constructor
    · intro url hasks
      rw [(follows _ url).of_asks family driver hasks, (builtFrom_ofList entries).load_eq_ok_iff]
      apply hlast
    · intro host hhost
      apply asks_of_isLowerScheme hfamily hscheme hhost

/-- Entries of which the last replaces the first. -/
def erpEntries : List (String × Dialect) :=
  [("openedge.odbc", .memory), ("openedge.odbc-async", .odbcAsync), ("openedge.odbc", .odbc)]

/-- The ODBC dialect of OpenEdge is found by URLs in any case, with a host or without. -/
theorem lookups_agree_erp :
  LastUnder (keyOf "openedge".toList "odbc".toList) .odbc erpEntries
    ∧ Url.IsLowerScheme ("openedge".toList ++ '+' :: "odbc".toList)
    ∧ Asks "OpenEdge+ODBC://erp-db:20931/textile" "openedge".toList "odbc".toList
    ∧ Asks "openedge+odbc://" "openedge".toList "odbc".toList ∧ '.' ∉ "openedge".toList
    ∧ Url.scheme "OpenEdge+ODBC://erp-db:20931/textile".toList
      = Url.scheme "openedge+odbc://".toList
    ∧ (ofList erpEntries).fromUrl "OpenEdge+ODBC://erp-db:20931/textile" = .ok .odbc
  := by
  have hlast : LastUnder (keyOf "openedge".toList "odbc".toList) .odbc erpEntries :=
    ⟨[("openedge.odbc", .memory), ("openedge.odbc-async", .odbcAsync)], [], rfl, List.not_mem_nil⟩
  have hscheme : Url.IsLowerScheme ("openedge".toList ++ '+' :: "odbc".toList) :=
    ⟨⟨'o', "penedge+odbc".toList, rfl, by decide, List.all_eq_true.mp (by decide)⟩, by simp⟩
  have hasks : Asks "OpenEdge+ODBC://erp-db:20931/textile" "openedge".toList "odbc".toList :=
    ⟨by decide +kernel, by decide⟩
  obtain ⟨-, -, -, hkeys, hselected⟩ := lookups_agree
  obtain ⟨hdialect, hurl⟩ := hselected erpEntries _ _ _ hlast hasks.2 hscheme
  have hshort : Asks "openedge+odbc://" "openedge".toList "odbc".toList := hurl [] (by simp)
  have hplain : '.' ∉ "openedge".toList := by decide
  use hlast, hscheme, hasks, hshort, hplain
  use hkeys _ _ _ _ _ _ hasks hshort hplain hplain rfl
  apply hdialect _ hasks

end SqlDialect.Registry
