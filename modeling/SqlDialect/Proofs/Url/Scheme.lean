import Mathlib.Data.List.TakeDrop
import Mathlib.Data.List.TakeWhile
import SqlDialect.Url.Scheme

/-!
# Schemes that are read from URLs

The scheme that is read from a URL is what stands in front of its first colon, in lower case.  A
scheme in lower case that has a plus sign is read back from a URL in which it stands in front of a
host of letters, digits, hyphens and points, or of none.
-/

namespace SqlDialect.Url

/-! ## Spans -/

section

variable {p : Char → Bool} {front : List Char}

/-- A span ends at the first character that is not in it. -/
theorem span_append_cons (h : ∀ c ∈ front, p c) {c : Char} (hc : p c = false) (back : List Char) :
  (front ++ c :: back).span p = (front, c :: back)
  := by
  rw [List.span_eq_takeWhile_dropWhile, List.takeWhile_append_of_pos h,
    List.dropWhile_append_of_pos h, List.takeWhile_cons_of_neg (by simp [hc]),
    List.dropWhile_cons_of_neg (by simp [hc]), List.append_nil]

/-- A span goes to the end when all characters are in it. -/
theorem span_of_all (h : ∀ c ∈ front, p c) :
  front.span p = (front, [])
  := by
  rw [List.span_eq_takeWhile_dropWhile, List.takeWhile_eq_self_iff.mpr h,
    List.dropWhile_eq_nil_iff.mpr h]

/-- All characters differ from one that does not occur. -/
theorem forall_ne_of_not_mem {mark : Char} (h : mark ∉ front) :
  ∀ c ∈ front, decide (c ≠ mark)
  := by
  intro c hc
  rw [decide_eq_true_eq]
  rintro rfl
  apply h hc

/-- The text in front of the first mark, and the rest. -/
theorem span_ne_append_cons {mark : Char} (h : mark ∉ front) (back : List Char) :
  (front ++ mark :: back).span (· ≠ mark) = (front, mark :: back)
  := span_append_cons (forall_ne_of_not_mem h) (by simp) back

/-- The span before a mark that does not occur is the whole text. -/
theorem span_ne_of_not_mem {mark : Char} (h : mark ∉ front) :
  front.span (· ≠ mark) = (front, [])
  := span_of_all (forall_ne_of_not_mem h)

end

/-! ## Names of schemes -/

/-- The name of a scheme: a letter, and other characters of schemes behind it. -/
def IsSchemeName (name : List Char) : Prop :=
  ∃ first rest, name = first :: rest ∧ first.isAlpha ∧ ∀ c ∈ rest, isSchemeChar c

/-- All characters in the name of a scheme may stand in one. -/
theorem IsSchemeName.isSchemeChar {name : List Char} (h : IsSchemeName name) :
  ∀ c ∈ name, isSchemeChar c
  := by
  obtain ⟨first, rest, rfl, hfirst, hrest⟩ := h
  apply List.forall_mem_cons.mpr ⟨?_, hrest⟩
  simp [Url.isSchemeChar, Char.isAlphanum, hfirst]

/-- What is read as a scheme stands in front of a colon. -/
theorem splitScheme?_eq_some {text found behind : List Char}
    (h : splitScheme? text = some (found, behind)) :
  ∃ name, text = name ++ ':' :: behind ∧ IsSchemeName name ∧ found = name.map Char.toLower
  := by
  cases text with
  | nil => cases h
  | cons first rest =>
    rw [splitScheme?] at h
    split at h
    next hfirst =>
      split at h
      next more behind' hspan =>
        obtain ⟨rfl, rfl⟩ := Prod.mk.inj (Option.some.inj h)
        rw [List.span_eq_takeWhile_dropWhile, Prod.mk.injEq] at hspan
        obtain ⟨hmore, hbehind⟩ := hspan
        refine ⟨first :: more, ?_, ⟨first, more, rfl, hfirst, ?_⟩, rfl⟩
        · rw [List.cons_append, ← hmore, ← hbehind, List.takeWhile_append_dropWhile]
        · intro c hc
          rw [← hmore] at hc
          apply List.mem_takeWhile_imp hc
      next => cases h
    next => cases h

/-- A name in front of a colon is read as a scheme. -/
theorem splitScheme?_append {name : List Char} (h : IsSchemeName name) (behind : List Char) :
  splitScheme? (name ++ ':' :: behind) = some (name.map Char.toLower, behind)
  := by
  obtain ⟨first, rest, rfl, hfirst, hrest⟩ := h
  rw [List.cons_append, splitScheme?, if_pos hfirst, span_append_cons hrest (by decide)]
  rfl

/-- The scheme of a URL is the name in front of its first colon, in lower case. -/
theorem scheme_eq_ok {text found : List Char} (h : scheme text = .ok found) :
  ∃ name behind, clean text = name ++ ':' :: behind ∧ IsSchemeName name
    ∧ found = name.map Char.toLower
  := by
  rw [scheme] at h
  split at h
  next => cases h
  next found' behind hsplit =>
    split at h
    next => cases h
    next =>
      cases h
      obtain ⟨name, htext, hname, hfound⟩ := splitScheme?_eq_some hsplit
      exact ⟨name, behind, htext, hname, hfound⟩

/-! ## Characters of schemes -/

/-- A character of a scheme differs from all that cannot stand in one. -/
theorem ne_of_isSchemeChar {c d : Char} (hc : isSchemeChar c) (hd : isSchemeChar d = false) :
  c ≠ d
  := by
  rintro rfl
  rw [hc] at hd
  cases hd

/-- A character of a scheme is visible. -/
theorem visible_of_isSchemeChar {c : Char} (h : isSchemeChar c) :
  0x20 < c.toNat
  := by
  by_contra hlow
  have hnone : ∀ n < 0x21, isSchemeChar (Char.ofNat n) = false := by decide
  have hno := hnone c.toNat (by omega)
  rw [Char.ofNat_toNat, h] at hno
  cases hno

/-- A character of a scheme does not end the authority. -/
theorem endsAuthority_of_isSchemeChar {c : Char} (h : isSchemeChar c) (special : Bool) :
  endsAuthority special c = false
  := by
  have hne : ∀ d, isSchemeChar d = false → c ≠ d := fun d => ne_of_isSchemeChar h
  simp [endsAuthority, hne '/' (by decide), hne '?' (by decide), hne '#' (by decide),
    hne '\\' (by decide)]

/-- Nothing is cleaned away from visible characters. -/
theorem clean_of_visible {text : List Char} (h : ∀ c ∈ text, 0x20 < c.toNat) :
  clean text = text
  := by
  have hkept : ∀ {part : List Char}, (∀ c ∈ part, 0x20 < c.toNat) →
      part.dropWhile (fun c => c.toNat ≤ 0x20) = part := by
    intro part hpart
    cases part with
    | nil => rfl
    | cons c rest =>
      have hc := hpart c List.mem_cons_self
      apply List.dropWhile_cons_of_neg
      simpa using hc
  have hreverse : ∀ c ∈ text.reverse, 0x20 < c.toNat := fun c hc => h c (List.mem_reverse.mp hc)
  have hsolid : ∀ c ∈ text, decide (c ≠ '\t' ∧ c ≠ '\n' ∧ c ≠ '\r') := by
    intro c hc
    have hvisible := h c hc
    rw [decide_eq_true_eq]
    refine ⟨?_, ?_, ?_⟩ <;>
    · rintro rfl
      revert hvisible
      decide
  rw [clean]
  dsimp only
  rw [hkept h, hkept hreverse, List.reverse_reverse, List.filter_eq_self.mpr hsolid]

/-! ## Schemes with a plus sign -/

/-- The scheme is in lower case, letters and other characters. -/
def IsLowerScheme (name : List Char) : Prop :=
  IsSchemeName name ∧ ∀ c ∈ name, c.toLower = c

/-- A scheme with a plus sign is not special. -/
theorem isSpecial_of_plus {name : List Char} (h : '+' ∈ name) :
  isSpecial name = false
  := by
  have hplain : ∀ special ∈ ["http", "https", "ws", "wss", "ftp"], '+' ∉ special.toList := by decide
  rw [isSpecial, List.contains_eq_mem, decide_eq_false_iff_not]
  intro hmem
  have hname := hplain _ hmem
  rw [String.toList_ofList] at hname
  apply hname h

section

variable {host : List Char} (h : ∀ c ∈ host, isSchemeChar c)

include h in
/-- A plain host has no credentials in front of it. -/
theorem dropCredentials_of_plain (special : Bool) :
  dropCredentials special host = .ok (false, host)
  := by
  have hauthority : ∀ c ∈ host, !endsAuthority special c := by
    intro c hc
    rw [endsAuthority_of_isSchemeChar (h c hc)]
    rfl
  have hsign : '@' ∉ host.reverse := by
    intro hmem
    cases h '@' (List.mem_reverse.mp hmem)
  rw [dropCredentials]
  dsimp only
  rw [List.takeWhile_eq_self_iff.mpr hauthority, span_ne_of_not_mem hsign]

include h in
/-- A plain host goes to the end. -/
theorem splitHost_of_plain (special : Bool) :
  splitHost special false host = (host, [])
  := by
  induction host with
  | nil => rfl
  | cons c rest ih =>
    obtain ⟨hc, hrest⟩ := List.forall_mem_cons.mp h
    have hne : ∀ d, isSchemeChar d = false → c ≠ d := fun d => ne_of_isSchemeChar hc
    rw [splitHost, endsAuthority_of_isSchemeChar hc]
    simp [hne ':' (by decide), hne '[' (by decide), ih hrest]

include h in
/-- There is no fault in a plain host. -/
theorem hostFault?_of_plain :
  hostFault? false host = none
  := by
  have hforbidden : ∀ c ∈ host, forbiddenInHost.contains c = false := by
    intro c hc
    rw [List.contains_eq_mem, decide_eq_false_iff_not]
    intro hmem
    have hnone : forbiddenInHost.all (!isSchemeChar ·) := by decide
    have hno := List.all_eq_true.mp hnone c hmem
    rw [h c hc] at hno
    cases hno
  have hnone : host.any forbiddenInHost.contains = false := by
    rw [List.any_eq_false]
    intro c hc
    rw [hforbidden c hc]
    apply Bool.false_ne_true
  cases host with
  | nil => rfl
  | cons c rest =>
    have hc : c ≠ '[' := ne_of_isSchemeChar (h c List.mem_cons_self) (by decide)
    rw [hostFault?, if_neg Bool.false_ne_true, if_neg]
    · rw [hnone]
      apply Bool.false_ne_true
    · rintro inner heq
      apply hc (List.cons.inj heq).1

include h in
/-- There is no fault in an authority that is a plain host. -/
theorem authorityFault?_of_plain :
  authorityFault? false host = none
  := by
  rw [authorityFault?, dropCredentials_of_plain h]
  simp [splitHost_of_plain h, hostFault?_of_plain h]

include h in
/-- A scheme in lower case with a plus sign is read back from a URL. -/
theorem scheme_of_isLowerScheme {name : List Char} (hname : IsLowerScheme name)
    (hplus : '+' ∈ name) :
  scheme (name ++ ':' :: '/' :: '/' :: host) = .ok name
  := by
  have hvisible : ∀ c ∈ name ++ ':' :: '/' :: '/' :: host, 0x20 < c.toNat := by
    intro c hc
    simp only [List.mem_append, List.mem_cons] at hc
    obtain hc | rfl | rfl | rfl | hc := hc
    · apply visible_of_isSchemeChar (hname.1.isSchemeChar c hc)
    · decide
    · decide
    · decide
    · apply visible_of_isSchemeChar (h c hc)
  have hfile : name ≠ "file".toList := by
    rintro rfl
    revert hplus
    decide
  have hlower : name.map Char.toLower = name := by
    rw [List.map_congr_left hname.2, List.map_id']
  rw [scheme, clean_of_visible hvisible, splitScheme?_append hname.1]
  have hfault : restFault? name ('/' :: '/' :: host) = none := by
    rw [restFault?, isSpecial_of_plus hplus, if_neg Bool.false_ne_true, if_neg hfile]
    apply authorityFault?_of_plain h
  simp only [hlower, hfault]

end

end SqlDialect.Url
