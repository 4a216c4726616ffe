import Harvest.Proofs.Components
import Harvest.Proofs.Masks
import Harvest.Proofs.Permissive

/-!
# Spellings of a path

One node of a store can be asked about in more than one spelling of its path: with other letters in
capitals, and with separators behind it. Whether a tree includes it should not depend on that.

For the case of ASCII letters it does not, in the identifier as little as in the paths of scopes and
in globs: whatever looks at a text does so up to case, and a verdict is that of the lowercase tree on
the lowercase entry (`includes_lower`). So entries and trees that are the same in lowercase decide the
same and cover the same (`decisions_ignore_case`).

For separators at the end it does. Anchors and names are looked at without them, but a glob that
holds a separator is matched against the path below its scope, which keeps them. So a tree that names
a directory by its path loses it when the directory is asked about with a separator behind it
(`padding_loses_entry`). What depends on the spelling is what these globs make of the path, and
nothing else (`padding_seen_by_globs`); globs that end in a star behind an ordinary character make
the same of both.
-/

namespace Harvest

variable {e e' : Entry} {relative : List Char} {known : Knowledge} {t t' : RuleTree}

/-! ## Case -/

namespace Path

theorem lower_lower (cs : List Char) : lower (lower cs) = lower cs := by
  unfold lower
  rw [List.map_map]
  exact List.map_congr_left (fun c _ => Text.toLower_toLower c)

theorem toList_toLower (s : String) : s.toLower.toList = lower s.toList := String.toList_map

theorem ofList_lower (cs : List Char) : String.ofList (lower cs) = (String.ofList cs).toLower := by
  rw [← String.toList_inj, toList_toLower, String.toList_ofList, String.toList_ofList]

theorem toLower_eq_toLower_iff {s t : String} :
    s.toLower = t.toLower ↔ same s.toList t.toList = true := by
  rw [same_iff, ← String.toList_inj, toList_toLower, toList_toLower]

theorem sameLetter_toLower (a b : Char) : sameLetter a.toLower b.toLower = sameLetter a b := by
  unfold sameLetter
  rw [Text.toLower_toLower, Text.toLower_toLower]

theorem after?_lower : ∀ start cs : List Char,
    after? (lower start) (lower cs) = (after? start cs).map lower
  | [], _ => rfl
  | _ :: _, [] => rfl
  | s :: start, c :: cs => by
      have ih := after?_lower start cs
      unfold lower at ih ⊢
      rw [List.map_cons, List.map_cons, after?, after?, sameLetter_toLower, ih]
      split <;> rfl

theorem lastPiece_lower (cs : List Char) : lastPiece (lower cs) = lower (lastPiece cs) := by
  have hsame : ((· != separator) ∘ Char.toLower) = (· != separator) := by
    funext c
    rw [Bool.eq_iff_iff, Function.comp_apply, bne_iff_ne, bne_iff_ne, ne_eq, ne_eq,
      toLower_eq_separator]
  unfold lower lastPiece
  rw [← List.map_reverse, List.takeWhile_map, hsame, List.map_reverse]

theorem name_toLower (id : String) : name id.toLower = (name id).toLower := by
  unfold name
  rw [toList_toLower, ← lower_trimEnd, lastPiece_lower, ofList_lower]

end Path

/-- A rule with its glob in lowercase. -/
def Rule.lower (r : Rule) : Rule := { r with glob := r.glob.toLower }

/-- A scope with its path and its rules in lowercase. -/
def Scope.lower (s : Scope) : Scope := ⟨s.path.toLower, s.rules.map Rule.lower⟩

/-- A tree with its scopes in lowercase. -/
def RuleTree.lower (t : RuleTree) : RuleTree := { t with scopes := t.scopes.map Scope.lower }

/-- An entry with its identifier in lowercase. -/
def Entry.lower (e : Entry) : Entry := { e with id := e.id.toLower }

theorem Glob.matchesName_toLower (name glob : String) :
    matchesName name.toLower glob.toLower = matchesName name glob := by
  unfold matchesName
  rw [Text.lowerEach_toLower, Text.lowerEach_toLower]

theorem suits_lower (r : Rule) (e : Entry) (relative : List Char) :
    r.lower.suits e.lower (Path.lower relative) = r.suits e relative := by
  have hsep : r.glob.toLower.toList.contains '/' = r.glob.toList.contains '/' := by
    rw [Path.toList_toLower, Bool.eq_iff_iff, List.contains_iff_mem, List.contains_iff_mem]
    exact Path.separator_mem_lower
  have hname : e.lower.name = e.name.toLower := Path.name_toLower e.id
  unfold Rule.suits Rule.lower
  dsimp only
  rw [hsep, hname, Path.ofList_lower, ← apply_ite String.toLower, Glob.matchesName_toLower]
  rfl

theorem fit_lower (r : Rule) (e : Entry) (relative : List Char) (known : Knowledge) :
    r.lower.fit e.lower (Path.lower relative) known = r.fit e relative known := by
  rw [fit_eq, fit_eq, suits_lower]
  rfl

namespace Scope

theorem properTail_lower (cs : List Char) :
    properTail (Path.lower cs) = (properTail cs).map Path.lower := by
  have hhead : (Path.lower cs).head? = some Path.separator ↔ cs.head? = some Path.separator := by
    cases cs with
    | nil => exact Iff.rfl
    | cons c cs =>
        have hfirst : (Path.lower (c :: cs)).head? = some c.toLower := rfl
        rw [hfirst, List.head?_cons, Option.some.injEq, Option.some.injEq,
          Path.toLower_eq_separator]
  have hroot : Path.lower cs = [Path.separator] ↔ cs = [Path.separator] := by
    constructor
    · intro h
      obtain ⟨c, rfl, hc⟩ := List.map_eq_singleton_iff.mp h
      rw [Path.toLower_eq_separator.mp hc]
    · rintro rfl
      rfl
  ext r
  rw [Option.map_eq_some_iff, properTail_eq_some]
  constructor
  · rintro ⟨rfl, hsep, hne⟩
    exact ⟨cs, properTail_eq_some.mpr ⟨rfl, hhead.mp hsep, fun h => hne (hroot.mpr h)⟩, rfl⟩
  · rintro ⟨r', htail, rfl⟩
    obtain ⟨rfl, hsep, hne⟩ := properTail_eq_some.mp htail
    exact ⟨rfl, hhead.mpr hsep, fun h => hne (hroot.mp h)⟩

theorem isAnchor_lower (s : Scope) (id : String) : s.lower.isAnchor id.toLower = s.isAnchor id := by
  rw [Bool.eq_iff_iff, isAnchor_iff_lower, isAnchor_iff_lower]
  unfold lower
  dsimp only
  rw [Path.toList_toLower, Path.toList_toLower, ← Path.lower_trimEnd, ← Path.lower_trimEnd,
    Path.lower_lower, Path.lower_lower]

theorem relative?_lower (s : Scope) (id : String) :
    s.lower.relative? id.toLower = (s.relative? id).map Path.lower := by
  rw [relative?_eq, relative?_eq]
  unfold lower
  dsimp only
  rw [Path.toList_toLower, Path.toList_toLower, ← Path.lower_trimEnd, Path.after?_lower]
  cases Path.after? (Path.trimEnd s.path.toList) id.toList with
  | none => rfl
  | some rest => exact properTail_lower rest

theorem covers_lower (s : Scope) (id : String) : s.lower.covers id.toLower = s.covers id := by
  unfold covers
  rw [isAnchor_lower, relative?_lower, Option.isSome_map]

theorem verdict_lower (s : Scope) (e : Entry) (known : Knowledge) :
    s.lower.verdict e.lower known = s.verdict e known := by
  have hrules : ∀ relative, RuleTree.firstVerdict e.lower (Path.lower relative) known s.lower.rules =
      RuleTree.firstVerdict e relative known s.rules := by
    intro relative
    refine firstVerdict_of_fits ?_
    rw [lower, List.map_map]
    exact List.map_congr_left (fun r _ => congrArg (Prod.mk r.effect) (fit_lower r e relative known))
  have hanchor : s.lower.isAnchor e.lower.id = s.isAnchor e.id := isAnchor_lower s e.id
  have hrelative : s.lower.relative? e.lower.id = (s.relative? e.id).map Path.lower :=
    relative?_lower s e.id
  unfold verdict
  rw [hanchor, hrelative]
  cases s.relative? e.id with
  | none => rfl
  | some relative =>
      rw [Option.map_some, Option.bind_some, Option.bind_some, hrules]

end Scope

/-- **The verdict is that of the lowercase tree on the lowercase entry.** -/
theorem includes_lower (t : RuleTree) (e : Entry) (known : Knowledge) :
    t.lower.includes e.lower known = t.includes e known := by
  refine includes_of_verdicts rfl rfl rfl ?_
  rw [RuleTree.lower, List.map_map]
  exact List.map_congr_left (fun s _ => s.verdict_lower e known)

theorem map_covers_lower (t : RuleTree) (id : String) :
    t.lower.scopes.map (·.covers id.toLower) = t.scopes.map (·.covers id) := by
  rw [RuleTree.lower, List.map_map]
  exact List.map_congr_left (fun s _ => s.covers_lower id)

/-- **Decisions ignore the case of ASCII letters.** Entries and trees that are the same in lowercase
get the same answers: from the metadata alone, under either assumption on the content, and from a
fingerprint. And the same scopes, by position, have a say. -/
theorem decisions_ignore_case (htree : t.lower = t'.lower) (hentry : e.lower = e'.lower) :
    t.mayInclude e = t'.mayInclude e' ∧
      (∀ indexable, t.wouldInclude e indexable = t'.wouldInclude e' indexable) ∧
      (∀ f : Fingerprint, t.wouldInclude e f.indexable = t'.wouldInclude e' f.indexable) ∧
      t.scopes.map (·.covers e.id) = t'.scopes.map (·.covers e'.id) := by
  have hincludes : ∀ known, t.includes e known = t'.includes e' known := by
    intro known
    rw [← includes_lower t, htree, hentry, includes_lower]
  have hid : e.id.toLower = e'.id.toLower := congrArg Entry.id hentry
  refine ⟨hincludes none, fun indexable => hincludes (some indexable),
    fun f => hincludes (some f.indexable), ?_⟩
  rw [← map_covers_lower, htree, hid, map_covers_lower]

/-- Letters in capitals beside letters that have no case in ASCII. -/
def shoutedTree : RuleTree :=
  ⟨some 9, [⟨"/DOCS/ä", [Rule.reject "/*/Draft*.TXT", (Rule.accept "K*").withIndexable .yes]⟩]⟩

/-- The same tree as it would be written in small letters. -/
def calmTree : RuleTree :=
  ⟨some 9, [⟨"/docs/ä", [Rule.reject "/*/draft*.txt", (Rule.accept "k*").withIndexable .yes]⟩]⟩

theorem decisions_ignore_case_shouted :
    shoutedTree.lower = calmTree.lower ∧
      (Entry.leaf "/Docs/ä/K.TXT" 9 0).lower = (Entry.leaf "/dOCS/ä/k.txt" 9 0).lower ∧
      shoutedTree.mayInclude (.leaf "/Docs/ä/K.TXT" 9 0) =
        calmTree.mayInclude (.leaf "/dOCS/ä/k.txt" 9 0) := by
  have hpath : "/DOCS/ä".toLower = "/docs/ä".toLower :=
    Path.toLower_eq_toLower_iff.mpr (by decide +kernel)
  have hdraft : "/*/Draft*.TXT".toLower = "/*/draft*.txt".toLower :=
    Path.toLower_eq_toLower_iff.mpr (by decide +kernel)
  have hletter : "K*".toLower = "k*".toLower := Path.toLower_eq_toLower_iff.mpr (by decide +kernel)
  have hid : "/Docs/ä/K.TXT".toLower = "/dOCS/ä/k.txt".toLower :=
    Path.toLower_eq_toLower_iff.mpr (by decide +kernel)
  have htree : shoutedTree.lower = calmTree.lower := by
    unfold shoutedTree calmTree RuleTree.lower Scope.lower Rule.lower
    simp only [List.map_cons, List.map_nil, Rule.reject, Rule.accept, Rule.withIndexable, hpath,
      hdraft, hletter]
  have hentry : (Entry.leaf "/Docs/ä/K.TXT" 9 0).lower = (Entry.leaf "/dOCS/ä/k.txt" 9 0).lower := by
    unfold Entry.lower
    exact congrArg (fun id => Entry.leaf id 9 0) hid
  exact ⟨htree, hentry, (decisions_ignore_case htree hentry).1⟩

/-! ## Separators at the end -/

/-- So many separators. -/
def padding (k : Nat) : List Char := List.replicate k Path.separator

/-- The entry with separators behind its identifier. -/
def Entry.padded (e : Entry) (k : Nat) : Entry := { e with id := e.id ++ String.ofList (padding k) }

theorem toList_padded (e : Entry) (k : Nat) : (e.padded k).id.toList = e.id.toList ++ padding k := by
  unfold Entry.padded
  rw [String.toList_append, String.toList_ofList]

namespace Path

variable {cs front rest : List Char} {k : Nat}

theorem trimEnd_padding (cs : List Char) (k : Nat) : trimEnd (cs ++ padding k) = trimEnd cs := by
  induction k with
  | zero => rw [padding, List.replicate_zero, List.append_nil]
  | succ k ih =>
      rw [padding, List.replicate_succ', ← List.append_assoc, ← ih]
      exact List.rdropWhile_concat_pos (· == separator) _ separator rfl

/-- A beginning of a padded text is one of the text, or the text with some of the padding. -/
theorem append_padding_cut (h : cs ++ padding k = front ++ rest) :
    (∃ more, cs = front ++ more ∧ rest = more ++ padding k) ∨ trimEnd front = trimEnd cs := by
  rcases List.append_eq_append_iff.mp h with ⟨more, rfl, hpad⟩ | ⟨more, rfl, rfl⟩
  · obtain ⟨n, rfl⟩ : ∃ n, more = padding n :=
      ⟨more.length, List.eq_replicate_iff.mpr ⟨rfl, fun c hc =>
        List.eq_of_mem_replicate (hpad.symm ▸ List.mem_append_left rest hc : c ∈ padding k)⟩⟩
    exact Or.inr (trimEnd_padding cs n)
  · exact Or.inl ⟨more, rfl, rfl⟩

end Path

namespace Scope

variable {s : Scope} {id : String} {r : List Char} {k : Nat}

theorem isAnchor_padded (s : Scope) (e : Entry) (k : Nat) :
    s.isAnchor (e.padded k).id = s.isAnchor e.id := by
  rw [Bool.eq_iff_iff, isAnchor_iff_lower, isAnchor_iff_lower, toList_padded, Path.trimEnd_padding]

/-- What lies below a scope, on characters: a beginning that is the anchor up to case, and a rest of a
separator and more. -/
theorem relative?_eq_some : s.relative? id = some r ↔
    ∃ front, id.toList = front ++ r ∧ Path.lower front = Path.lower (Path.trimEnd s.path.toList) ∧
      r.head? = some Path.separator ∧ r ≠ [Path.separator] := by
  rw [relative?_eq, Option.bind_eq_some_iff]
  constructor
  · rintro ⟨rest, hafter, htail⟩
    obtain ⟨rfl, hhead, hne⟩ := properTail_eq_some.mp htail
    obtain ⟨front, hid, hfront⟩ := Path.after?_eq_some.mp hafter
    exact ⟨front, hid, hfront, hhead, hne⟩
  · rintro ⟨front, hid, hfront, hhead, hne⟩
    exact ⟨r, Path.after?_eq_some.mpr ⟨front, hid, hfront⟩,
      properTail_eq_some.mpr ⟨rfl, hhead, hne⟩⟩

/-- An identifier that begins with the anchor, and has separators only behind it, is the anchor. -/
theorem isAnchor_of_trimEnd {front : List Char}
    (hfront : Path.lower front = Path.lower (Path.trimEnd s.path.toList))
    (hid : Path.trimEnd front = Path.trimEnd id.toList) : s.isAnchor id = true := by
  rw [isAnchor_iff_lower, ← hid, Path.lower_trimEnd, hfront, ← Path.lower_trimEnd,
    Path.trimEnd_trimEnd]

/-- **The path below a scope keeps the padding**, unless the entry is the anchor itself. -/
theorem relative?_padded {e : Entry} (hanchor : s.isAnchor e.id = false) (k : Nat) :
    s.relative? (e.padded k).id = (s.relative? e.id).map (· ++ padding k) := by
  have hnot : ∀ {front : List Char},
      Path.lower front = Path.lower (Path.trimEnd s.path.toList) →
      Path.trimEnd front ≠ Path.trimEnd e.id.toList := by
    intro front hfront htrim
    rw [isAnchor_of_trimEnd hfront htrim] at hanchor
    cases hanchor
  ext r
  rw [Option.map_eq_some_iff, relative?_eq_some, toList_padded]
  constructor
  · rintro ⟨front, hcut, hfront, hhead, -⟩
    rcases Path.append_padding_cut hcut with ⟨more, hid, rfl⟩ | htrim
    · -- what is behind the anchor is not only separators, so it starts below it
      have hmore : ∀ n, more ≠ padding n := by
        rintro n rfl
        rw [hid, Path.trimEnd_padding] at hnot
        exact hnot hfront rfl
      obtain ⟨c, cs, rfl⟩ := List.exists_cons_of_ne_nil (hmore 0)
      exact ⟨c :: cs, relative?_eq_some.mpr ⟨front, hid, hfront, hhead, hmore 1⟩, rfl⟩
    · exact absurd htrim (hnot hfront)
  · rintro ⟨r, hr, rfl⟩
    obtain ⟨front, hid, hfront, hhead, hne⟩ := relative?_eq_some.mp hr
    refine ⟨front, by rw [hid, List.append_assoc], hfront, ?_, ?_⟩
    · rw [List.head?_append, hhead, Option.some_or]
    · intro hone
      rcases List.append_eq_singleton_iff.mp hone with ⟨rfl, -⟩ | ⟨hroot, -⟩
      · cases hhead
      · exact hne hroot

end Scope

theorem name_padded (e : Entry) (k : Nat) : (e.padded k).name = e.name := by
  unfold Entry.name Path.name
  rw [toList_padded, Path.trimEnd_padding]

/-- A rule sees the padding only if its glob holds a separator. -/
theorem fit_padded {k : Nat} {r : Rule}
    (h : Path.separator ∈ r.glob.toList →
      Glob.matchesName (String.ofList (relative ++ padding k)) r.glob =
        Glob.matchesName (String.ofList relative) r.glob) :
    r.fit (e.padded k) (relative ++ padding k) known = r.fit e relative known := by
  have hsuits : r.suits (e.padded k) (relative ++ padding k) = r.suits e relative := by
    unfold Rule.suits
    by_cases hsep : r.glob.toList.contains '/' = true
    · rw [if_pos hsep, if_pos hsep, h (List.contains_iff_mem.mp hsep)]
      rfl
    · rw [if_neg hsep, if_neg hsep, name_padded]
      rfl
  rw [fit_eq, fit_eq, hsuits]
  rfl

/-- Every glob that looks at the path below its scope makes the same of the path with `k` separators
behind it. -/
def RuleTree.Overlooks (t : RuleTree) (id : String) (k : Nat) : Prop :=
  ∀ s ∈ t.scopes, s.isAnchor id = false → ∀ relative, s.relative? id = some relative →
    ∀ r ∈ s.rules, Path.separator ∈ r.glob.toList →
      Glob.matchesName (String.ofList (relative ++ padding k)) r.glob =
        Glob.matchesName (String.ofList relative) r.glob

theorem includes_padded {k : Nat} (h : t.Overlooks e.id k) (known : Knowledge) :
    t.includes (e.padded k) known = t.includes e known := by
  refine includes_of_verdicts rfl rfl rfl (List.map_congr_left fun s hs => ?_)
  have hseen := h s hs
  unfold Scope.verdict
  rw [Scope.isAnchor_padded]
  cases hanchor : s.isAnchor e.id with
  | true => rfl
  | false =>
      rw [Scope.relative?_padded hanchor]
      cases hrelative : s.relative? e.id with
      | none => rfl
      | some relative =>
          refine firstVerdict_of_fits (List.map_congr_left fun r hr => ?_)
          exact congrArg (Prod.mk r.effect) (fit_padded (hseen hanchor relative hrelative r hr))

/-! ## Globs that end in a star -/

namespace Glob

variable {glob text front : List Char} {c : Char} {k : Nat}

/-- A glob that ends in a star right behind an ordinary character: neither a wildcard nor a separator.
-/
def IsOpen (glob : String) : Prop :=
  ∃ front c, glob.toList = front ++ [c, '*'] ∧ c ∉ ['*', '?', Path.separator]

/-- A star at the end leaves a beginning to the glob in front of it. -/
theorem mem_language_open :
    text ∈ language (glob ++ ['*']) ↔ ∃ front, front <+: text ∧ front ∈ language glob := by
  rw [language_append, Language.mem_mul]
  constructor
  · rintro ⟨front, hfront, rest, -, rfl⟩
    exact ⟨front, List.prefix_append front rest, hfront⟩
  · rintro ⟨front, ⟨rest, rfl⟩, hfront⟩
    exact ⟨front, hfront, rest,
      mem_language_star.mpr ⟨[], List.nil_suffix, mem_language_nil.mpr rfl⟩, rfl⟩

/-- What fits a glob that ends in an ordinary character ends in that character. -/
theorem eq_concat_of_mem_language (hstar : c ≠ '*') (hmark : c ≠ '?')
    (h : text ∈ language (glob ++ [c])) : ∃ front, text = front ++ [c] := by
  rw [language_append, Language.mem_mul] at h
  obtain ⟨front, -, last, hlast, rfl⟩ := h
  obtain ⟨d, rest, rfl, hd, hrest⟩ := (mem_language_cons hstar).mp hlast
  rw [mem_language_nil.mp hrest, ← hd.resolve_left hmark]
  exact ⟨front, rfl⟩

/-- A beginning that ends in no separator does not reach into the padding. -/
theorem prefix_padding_iff (hsep : c ≠ Path.separator) :
    front ++ [c] <+: text ++ padding k ↔ front ++ [c] <+: text := by
  constructor
  · rintro ⟨rest, h⟩
    rcases List.append_eq_append_iff.mp h with ⟨more, htext, -⟩ | ⟨more, hfront, hpad⟩
    · exact ⟨more, htext.symm⟩
    · rcases List.eq_nil_or_concat' more with rfl | ⟨init, d, rfl⟩
      · rw [List.append_nil] at hfront
        exact hfront ▸ List.prefix_rfl
      · -- the last character would be one of the padding
        rw [← List.append_assoc] at hfront
        obtain rfl : c = d := (List.append_inj_right' hfront rfl |> List.singleton_inj.mp)
        have hmem : c ∈ padding k := hpad ▸ List.mem_append_left rest
          (List.mem_append_right init List.mem_cons_self)
        exact absurd (List.eq_of_mem_replicate hmem) hsep
  · exact fun h => h.trans (List.prefix_append text _)

/-- **Open globs overlook padding.** -/
theorem matchesName_padding {glob : String} (h : IsOpen glob) (cs : List Char) (k : Nat) :
    matchesName (String.ofList (cs ++ padding k)) glob = matchesName (String.ofList cs) glob := by
  obtain ⟨front, c, hglob, hc⟩ := h
  simp only [List.mem_cons, List.not_mem_nil, or_false, not_or] at hc
  obtain ⟨hstar, hmark, hsep⟩ := hc
  -- folded, the glob ends in an ordinary character and a star as well
  obtain ⟨before, d, hlast⟩ : ∃ before d, Text.lowerChar c = before ++ [d] := by
    refine (List.eq_nil_or_concat' (Text.lowerChar c)).resolve_left (fun hnil => ?_)
    have hlength := Text.length_lowerChar c
    rw [hnil] at hlength
    split at hlength <;> cases hlength
  have hordinary : ∀ {x : Char}, x.toNat < 0x80 → x.isAlpha = false → c ≠ x → d ≠ x := by
    rintro x hascii hx hne rfl
    refine hne ((Text.mem_lowerChar_iff hascii hx).mp ?_)
    rw [hlast]
    exact List.mem_append_right before List.mem_cons_self
  have hstarFold : Text.lowerChar '*' = ['*'] := by decide
  have hfold : Text.lowerEach glob = (front.flatMap Text.lowerChar ++ before) ++ [d] ++ ['*'] := by
    rw [Text.lowerEach, hglob, List.flatMap_append, List.flatMap_cons, List.flatMap_cons,
      List.flatMap_nil, hlast, hstarFold]
    simp only [List.append_assoc, List.append_nil]
  have hpad : Text.lowerEach (String.ofList (padding k)) = padding k :=
    Text.lowerEach_replicate (by decide) k
  rw [Bool.eq_iff_iff, matchesName, matchesName, fits_iff, fits_iff, hfold, Text.lowerEach_append,
    hpad, mem_language_open, mem_language_open]
  refine exists_congr fun text => and_congr_left fun htext => ?_
  obtain ⟨init, rfl⟩ := eq_concat_of_mem_language (hordinary (by decide) (by decide) hstar)
    (hordinary (by decide) (by decide) hmark) htext
  exact prefix_padding_iff (hordinary (by decide) (by decide) hsep)

end Glob

/-! ## What padding changes -/

/-- The tree of one scope with one rule, which accepts. -/
def RuleTree.only (path glob : String) : RuleTree := ⟨none, [⟨path, [Rule.accept glob]⟩]⟩

/-- Below its scope, such a tree asks the glob. -/
theorem includes_only {path glob : String}
    (hanchor : (Scope.mk path [Rule.accept glob]).isAnchor e.id = false)
    (hrelative : (Scope.mk path [Rule.accept glob]).relative? e.id = some relative)
    (hsep : Path.separator ∈ glob.toList) (known : Knowledge) :
    (RuleTree.only path glob).includes e known =
      Glob.matchesName (String.ofList relative) glob := by
  have hsuits : (Rule.accept glob).suits e relative =
      Glob.matchesName (String.ofList relative) glob := by
    have hlooks : glob.toList.contains '/' = true := List.contains_iff_mem.mpr hsep
    unfold Rule.suits Rule.accept
    dsimp only
    rw [if_pos hlooks]
    exact Bool.and_true _
  have hverdict : RuleTree.firstVerdict e relative known [Rule.accept glob] =
      if Glob.matchesName (String.ofList relative) glob then some true else none := by
    rw [RuleTree.firstVerdict_cons, fit_eq, hsuits]
    cases Glob.matchesName (String.ofList relative) glob <;> rfl
  rw [includes_eq, RuleTree.only, List.findSome?_cons, Scope.verdict, hanchor, hrelative,
    Option.bind_some, hverdict]
  cases Glob.matchesName (String.ofList relative) glob <;> cases e.isContainer <;> rfl

/-- For the tree of one glob with a separator, what the glob makes of the paths is all there is to it.
-/
theorem overlooks_only_iff {path glob : String} (hsep : Path.separator ∈ glob.toList) (e : Entry)
    (k : Nat) : (RuleTree.only path glob).Overlooks e.id k ↔
      ∀ known, (RuleTree.only path glob).includes (e.padded k) known =
        (RuleTree.only path glob).includes e known := by
  refine ⟨includes_padded, fun hsame s hs hanchor relative hrelative r hr _ => ?_⟩
  obtain rfl := List.mem_singleton.mp hs
  obtain rfl := List.mem_singleton.mp hr
  have hpadded := Scope.relative?_padded hanchor k
  rw [hrelative, Option.map_some] at hpadded
  have hwith := includes_only ((Scope.isAnchor_padded _ e k).trans hanchor) hpadded hsep none
  have hwithout := includes_only hanchor hrelative hsep none
  exact hwith.symm.trans ((hsame none).trans hwithout)

/-- A tree overlooks what each of its globs with a separator overlooks on its own. -/
theorem overlooks_iff_only (t : RuleTree) (id : String) (k : Nat) : t.Overlooks id k ↔
    ∀ s ∈ t.scopes, ∀ r ∈ s.rules, Path.separator ∈ r.glob.toList →
      (RuleTree.only s.path r.glob).Overlooks id k := by
  constructor
  · intro h s hs r hr hsep s' hs' hanchor relative hrelative r' hr' _
    obtain rfl := List.mem_singleton.mp hs'
    obtain rfl := List.mem_singleton.mp hr'
    exact h s hs hanchor relative hrelative r hr hsep
  · intro h s hs hanchor relative hrelative r hr hsep
    exact h s hs r hr hsep ⟨s.path, [Rule.accept r.glob]⟩ (List.mem_singleton.mpr rfl) hanchor
      relative hrelative (Rule.accept r.glob) (List.mem_singleton.mpr rfl) hsep

/-- **Padding is seen by the globs that look at paths.** Whatever is known of the content, a tree
decides the same about an entry with separators behind its identifier as without them, as long as its
globs that hold a separator make the same of both paths below their scopes. They do exactly if each of
them decides the same as the only rule of a tree; and open globs do, whatever the entry and however
many separators. -/
theorem padding_seen_by_globs (t : RuleTree) (e : Entry) (k : Nat) :
    (t.Overlooks e.id k → ∀ known, t.includes (e.padded k) known = t.includes e known) ∧
    (t.Overlooks e.id k ↔ ∀ s ∈ t.scopes, ∀ r ∈ s.rules, Path.separator ∈ r.glob.toList →
      ∀ known, (RuleTree.only s.path r.glob).includes (e.padded k) known =
        (RuleTree.only s.path r.glob).includes e known) ∧
    ((∀ s ∈ t.scopes, ∀ r ∈ s.rules, Path.separator ∈ r.glob.toList → Glob.IsOpen r.glob) →
      t.Overlooks e.id k) := by
  refine ⟨includes_padded, ?_, fun hopen s hs _ relative _ r hr hsep => ?_⟩
  · rw [overlooks_iff_only]
    refine forall₂_congr fun s _ => forall₂_congr fun r _ => forall_congr' fun hsep => ?_
    exact overlooks_only_iff hsep e k
  · exact Glob.matchesName_padding (hopen s hs r hr hsep) relative k

/-- A directory by its path and all below it, and text by its name. -/
def openTree : RuleTree :=
  ⟨none, [⟨"/docs/", [Rule.accept "/sub*", (Rule.accept "*.txt").withIndexable .yes]⟩]⟩

theorem padding_seen_by_globs_open :
    (∀ s ∈ openTree.scopes, ∀ r ∈ s.rules, Path.separator ∈ r.glob.toList → Glob.IsOpen r.glob) ∧
      openTree.includes ((Entry.container "/docs/sub" 0).padded 2) none = true := by
  have hopen : ∀ s ∈ openTree.scopes, ∀ r ∈ s.rules, Path.separator ∈ r.glob.toList →
      Glob.IsOpen r.glob := by
    intro s hs r hr hsep
    obtain rfl := List.mem_singleton.mp hs
    rcases List.mem_pair.mp hr with rfl | rfl
    · exact ⟨"/su".toList, 'b', by decide +kernel, by decide⟩
    · exact absurd hsep (by decide +kernel)
  obtain ⟨hsame, -, hoverlooks⟩ := padding_seen_by_globs openTree (.container "/docs/sub" 0) 2
  refine ⟨hopen, ?_⟩
  rw [hsame (hoverlooks hopen)]
  decide +kernel

/-- **A separator behind its path loses an entry, or wins it.** The tree that accepts `/sub` below
`/docs` makes sense and includes the directory `/docs/sub`; the same directory asked about as
`/docs/sub/` is excluded. With `/sub/*` it is the other way round. -/
theorem padding_loses_entry :
    (RuleTree.only "/docs" "/sub").defect? = none ∧ (RuleTree.only "/docs" "/sub/*").defect? = none ∧
      ((Entry.container "/docs/sub" 0).padded 1).id = "/docs/sub/" ∧
      (RuleTree.only "/docs" "/sub").mayInclude (.container "/docs/sub" 0) = true ∧
      (RuleTree.only "/docs" "/sub").mayInclude ((Entry.container "/docs/sub" 0).padded 1) = false ∧
      (RuleTree.only "/docs" "/sub/*").mayInclude (.container "/docs/sub" 0) = false ∧
      (RuleTree.only "/docs" "/sub/*").mayInclude ((Entry.container "/docs/sub" 0).padded 1) =
        true := by
  decide +kernel

end Harvest
