import Harvest.Proofs.VersionToken

/-!
# Tokens that break off

A token may be cut off anywhere. Its reader does not know, and goes on; but once it has come to the
end of the text it stays there, so what was cut off cannot be made up from what was read before.
This is a property of each reader by itself (`Reads`): where the form of a value breaks off, nothing
is left to read. It needs a look at the counts of lists, where a malformed one would be left in
place to be read again: what is left of a count is a count, unless nothing is left of it at all.

Readers that follow one another keep the property (`Reads.pair`), and so do groups and whole tokens:
the reader of a part starts where the text goes on after the parts in front, or at its end
(`Part.cursor_eq`). Hence a token goes exactly as far as it goes (`ofToken_cut`).
-/

namespace Harvest

/-! ## Readers and forms -/

/-- The reader finds the value in front of any text, and where the form breaks off it leaves
nothing. -/
structure Reads {β : Type} (read : List Char → β × List Char) (form : List Char) (value : β) :
    Prop where
  whole : ∀ rest, read (form ++ rest) = (value, rest)
  broken : ∀ cut, cut <+: form → cut ≠ form → (read cut).2 = []

namespace Reads

variable {β γ δ : Type} {read : List Char → β × List Char} {read' : List Char → γ × List Char}
  {form form' more text : List Char} {value : β} {value' : γ}

/-- A text that starts like the form holds all of it, or breaks off in it. -/
theorem cases_on_text (htext : text <+: form ++ more) :
    (∃ rest, text = form ++ rest ∧ rest <+: more) ∨ (text <+: form ∧ text ≠ form) := by
  rcases List.prefix_or_prefix_of_prefix htext (List.prefix_append form more) with h | ⟨rest, rfl⟩
  · by_cases heq : text = form
    · exact Or.inl ⟨[], by rw [heq, List.append_nil], List.nil_prefix⟩
    · exact Or.inr ⟨h, heq⟩
  · exact Or.inl ⟨rest, rfl, (List.prefix_append_right_inj form).mp htext⟩

/-- **After the form the text goes on, or is at its end.** -/
theorem rest_eq (h : Reads read form value) (htext : text <+: form ++ more) :
    (read text).2 = text.drop form.length ∧ (read text).2 <+: more := by
  rcases cases_on_text htext with ⟨rest, rfl, hrest⟩ | ⟨hcut, hne⟩
  · rw [h.whole, List.drop_left]
    exact ⟨rfl, hrest⟩
  · rw [h.broken text hcut hne, List.drop_eq_nil_of_le hcut.length_le]
    exact ⟨rfl, List.nil_prefix⟩

theorem map (h : Reads read form value) (f : β → γ) :
    Reads (fun text => (f (read text).1, (read text).2)) form (f value) where
  whole := fun rest => by rw [h.whole]
  broken := h.broken

/-- One reader after the other. -/
theorem pair (h : Reads read form value) (h' : Reads read' form' value') (hend : (read' []).2 = [])
    (f : β → γ → δ) :
    Reads (fun text => (f (read text).1 (read' (read text).2).1, (read' (read text).2).2))
      (form ++ form') (f value value') where
  whole := fun rest => by rw [List.append_assoc, h.whole, h'.whole]
  broken := by
    intro cut hcut hne
    rcases cases_on_text hcut with ⟨rest, rfl, hrest⟩ | ⟨hcut, hne⟩
    · rw [h.whole]
      exact h'.broken rest hrest (fun heq => hne (by rw [heq]))
    · rw [h.broken cut hcut hne]
      exact hend

end Reads

namespace Packing

variable {d : Char}

/-! ## Fields -/

/-- Of a field that breaks off the beginning is read, and nothing is left. -/
theorem unpack_broken (hd : d ≠ escape) : ∀ {value cut : List Char}, cut <+: escaped d value →
    (unpack d cut).1 <+: value ∧ (unpack d cut).2 = []
  | _, [], _ => ⟨List.nil_prefix, rfl⟩
  | [], c :: cut, h => absurd (List.prefix_nil.mp h) (List.cons_ne_nil c cut)
  | v :: value, c :: cut, h => by
      by_cases hv : v = d ∨ v = escape
      · rw [escaped, if_pos hv] at h
        obtain ⟨hfirst, htail⟩ := List.cons_prefix_cons.mp h
        rw [hfirst]
        cases cut with
        | nil => exact ⟨List.nil_prefix, rfl⟩
        | cons e cut =>
            obtain ⟨rfl, hmore⟩ := List.cons_prefix_cons.mp htail
            obtain ⟨hvalue, hrest⟩ := unpack_broken hd hmore
            rw [unpack_escape]
            exact ⟨List.cons_prefix_cons.mpr ⟨rfl, hvalue⟩, hrest⟩
      · rw [escaped, if_neg hv] at h
        obtain ⟨rfl, htail⟩ := List.cons_prefix_cons.mp h
        obtain ⟨hvalue, hrest⟩ := unpack_broken hd htail
        obtain ⟨hdelimiter, hescape⟩ := not_or.mp hv
        rw [unpack_plain hescape hdelimiter]
        exact ⟨List.cons_prefix_cons.mpr ⟨rfl, hvalue⟩, hrest⟩

theorem prefix_escaped {value cut : List Char} (h : cut <+: pack d value)
    (hne : cut ≠ pack d value) : cut <+: escaped d value :=
  (List.prefix_concat_iff.mp h).resolve_left hne

theorem reads_unpack (hd : d ≠ escape) (value : List Char) :
    Reads (unpack d) (pack d value) value where
  whole := unpack_pack_append hd value
  broken := fun _ hcut hne => (unpack_broken hd (prefix_escaped hcut hne)).2

/-- However much of a field there is, what is read is the beginning of its value. -/
theorem unpack_prefix (hd : d ≠ escape) {value more text : List Char}
    (htext : text <+: pack d value ++ more) : (unpack d text).1 <+: value := by
  rcases Reads.cases_on_text htext with ⟨rest, rfl, _⟩ | ⟨hcut, hne⟩
  · have hfield := congrArg Prod.fst (unpack_pack_append hd value rest)
    exact hfield ▸ List.prefix_rfl
  · exact (unpack_broken hd (prefix_escaped hcut hne)).1

/-! ## Lists -/

/-- Nothing to escape, nothing escaped. -/
theorem unpack_of_plain : ∀ {text : List Char}, (∀ c ∈ text, c ≠ escape ∧ c ≠ d) →
    unpack d text = (text, [])
  | [], _ => rfl
  | c :: text, h => by
      obtain ⟨hescape, hdelimiter⟩ := h c List.mem_cons_self
      rw [unpack_plain hescape hdelimiter,
        unpack_of_plain (fun c' hc' => h c' (List.mem_cons_of_mem c hc'))]

theorem escaped_of_plain : ∀ {text : List Char}, (∀ c ∈ text, c ≠ escape ∧ c ≠ d) →
    escaped d text = text
  | [], _ => rfl
  | c :: text, h => by
      obtain ⟨hescape, hdelimiter⟩ := h c List.mem_cons_self
      rw [escaped, if_neg (not_or.mpr ⟨hdelimiter, hescape⟩),
        escaped_of_plain (fun c' hc' => h c' (List.mem_cons_of_mem c hc'))]

theorem decimal_plain (hdigit : d.isDigit = false) (n : Nat) :
    ∀ c ∈ Text.decimal n, c ≠ escape ∧ c ≠ d := by
  intro c hc
  have hc : c.isDigit = true := Nat.isDigit_of_mem_toDigits (by decide) (by decide) hc
  constructor
  · rintro rfl
    exact absurd hc (by decide)
  · rintro rfl
    rw [hdigit] at hc
    cases hc

theorem unpackMany_nil (count : Nat) : unpackMany d count [] = ([], []) := by
  cases count <;> rfl

theorem unpackMany_broken (hd : d ≠ escape) : ∀ {values : List (List Char)} {cut : List Char},
    cut <+: (values.map (pack d)).flatten → (unpackMany d values.length cut).2 = []
  | [], cut, h => by rw [List.prefix_nil.mp h]; rfl
  | v :: values, cut, h => by
      by_cases hcut : cut = []
      · rw [hcut, unpackMany_nil]
      · rw [List.map_cons, List.flatten_cons] at h
        rw [List.length_cons, unpackMany_succ hcut]
        exact unpackMany_broken hd ((reads_unpack hd v).rest_eq h).2

/-- What is left of a count is a count, or nothing. -/
theorem unpackList_of_count (hdigit : d.isDigit = false) {n : Nat} (hn : n < UInt64.size)
    {cut : List Char} (h : cut <+: escaped d (Text.decimal n)) : (unpackList d cut).2 = [] := by
  rw [escaped_of_plain (decimal_plain hdigit n)] at h
  have hplain := unpack_of_plain (fun c hc => decimal_plain hdigit n c (h.subset hc))
  by_cases hcut : cut = []
  · rw [hcut]
    rfl
  · obtain ⟨m, hcount⟩ := Text.natural?_of_prefix (Nat.le_pred_of_lt hn) h hcut
    rw [unpackList_counted (by rw [hplain]; exact hcount), hplain, unpackMany_nil]

theorem reads_unpackList (hd : d ≠ escape) (hdigit : d.isDigit = false) {values : List (List Char)}
    (hlen : values.length < UInt64.size) : Reads (unpackList d) (packList d values) values where
  whole := unpackList_packList_append hd hlen
  broken := by
    intro cut hcut _
    rcases Reads.cases_on_text hcut with ⟨rest, rfl, hrest⟩ | ⟨hcut, hne⟩
    · have hcount : listCount? (Text.decimal values.length) = some values.length :=
        Text.natural?_decimal (by omega)
      have hfield := unpack_pack_append hd (Text.decimal values.length) rest
      rw [unpackList_counted (by rw [hfield]; exact hcount), hfield]
      exact unpackMany_broken hd hrest
    · exact unpackList_of_count hdigit hlen (prefix_escaped hcut hne)

end Packing

namespace Version

variable {v : Version}

/-! ## Groups -/

theorem reads_decodeGroup {α : Type} {body : α → List Char} {read : List Char → α × List Char}
    {g : Option α} (hread : ∀ a, g = some a → Reads read (body a) a) :
    Reads (decodeGroup read) (encodeGroup body g) g where
  whole := decodeGroup_encodeGroup_append (fun a ha => (hread a ha).whole)
  broken := by
    intro cut hcut hne
    cases cut with
    | nil => rfl
    | cons c cut =>
        cases g with
        | none =>
            -- the mark is all there is
            obtain ⟨rfl, hend⟩ := List.cons_prefix_cons.mp hcut
            exact absurd (by rw [List.prefix_nil.mp hend]; rfl) hne
        | some a =>
            obtain ⟨rfl, hbody⟩ := List.cons_prefix_cons.mp hcut
            have hmark : decodeGroup read (present :: cut) = (some (read cut).1, (read cut).2) := by
              simp only [decodeGroup, takeMark, if_true]
            rw [hmark]
            exact (hread a rfl).broken cut hbody (fun heq => hne (by rw [heq]; rfl))

theorem reads_packText (s : String) :
    Reads (fun text => (String.ofList (Packing.unpack delimiter text).1,
      (Packing.unpack delimiter text).2)) (packText s) s := by
  have h := (Packing.reads_unpack delimiter_ne_escape s.toList).map String.ofList
  rwa [String.ofList_toList] at h

theorem reads_decodeAccess {a : AccessList} (h : a.Fits) :
    Reads decodeAccess (encodeAccess a) a := by
  have hlist : ∀ {names : List String}, names.length < UInt64.size →
      Reads (Packing.unpackList delimiter)
        (Packing.packList delimiter (names.map String.toList)) (names.map String.toList) :=
    fun hlen => Packing.reads_unpackList delimiter_ne_escape (by decide) (by rwa [List.length_map])
  have hpair := (hlist h.1).pair (hlist h.2) rfl
    (fun allow deny => AccessList.mk (allow.map String.ofList) (deny.map String.ofList))
  rwa [Packing.map_ofList_map_toList, Packing.map_ofList_map_toList] at hpair

theorem reads_decodeAttribute (a : PathAttribute) :
    Reads decodeAttribute (encodeAttribute a) a :=
  (reads_packText a.name).pair (reads_packText a.value) rfl PathAttribute.mk

/-! ## Parts of a token -/

/-- What a token is made of. -/
inductive Part where
  | containerAccess
  | entryAccess
  | pathAttribute
  | uri
  | modified
  | length
  | ambiguity
deriving DecidableEq, Repr

namespace Part

/-- The parts in their order. -/
def all : List Part :=
  [containerAccess, entryAccess, pathAttribute, uri, modified, length, ambiguity]

/-- The parts in front of a part. -/
def earlier (f : Part) : List Part := all.takeWhile (· != f)

/-- The parts behind a part. -/
def later (f : Part) : List Part := (all.dropWhile (· != f)).tail

/-- The values of a part. -/
def Value : Part → Type
  | containerAccess => Option AccessList
  | entryAccess => Option AccessList
  | pathAttribute => Option PathAttribute
  | uri => String
  | modified => Int64
  | length => UInt64
  | ambiguity => Ambiguity

/-- The value of a part of a version. -/
def get (v : Version) : (f : Part) → f.Value
  | containerAccess => v.containerAccess
  | entryAccess => v.entryAccess
  | pathAttribute => v.pathAttribute
  | uri => v.uri
  | modified => v.modified
  | length => v.length
  | ambiguity => v.ambiguity

/-- The written form of a part of a version. -/
def form (v : Version) : Part → List Char
  | containerAccess => encodeGroup encodeAccess v.containerAccess
  | entryAccess => encodeGroup encodeAccess v.entryAccess
  | pathAttribute => encodeGroup encodeAttribute v.pathAttribute
  | uri => packText v.uri
  | modified => Packing.pack delimiter (Text.signedDecimal v.modified.toInt)
  | length => Packing.pack delimiter (Text.decimal v.length.toNat)
  | ambiguity => [v.ambiguity.letter]

/-- The parts one after the other. -/
def forms (v : Version) (parts : List Part) : List Char := (parts.map (form v)).flatten

/-- The reader of a part. -/
def read : (f : Part) → List Char → f.Value × List Char
  | containerAccess, text => decodeGroup decodeAccess text
  | entryAccess, text => decodeGroup decodeAccess text
  | pathAttribute, text => decodeGroup decodeAttribute text
  | uri, text =>
    (String.ofList (Packing.unpack delimiter text).1, (Packing.unpack delimiter text).2)
  | modified, text =>
    ((Text.int64? (Packing.unpack delimiter text).1).getD 0, (Packing.unpack delimiter text).2)
  | length, text =>
    ((Text.uint64? (Packing.unpack delimiter text).1).getD 0, (Packing.unpack delimiter text).2)
  | ambiguity, text => ((text.head?.bind Ambiguity.ofLetter?).getD .forcedInclude, text.tail)

/-- The text after some parts, for a reader that reads them one after the other. -/
def cursor (parts : List Part) (text : List Char) : List Char :=
  parts.foldl (fun rest f => (f.read rest).2) text

/-- A token is read part by part. -/
theorem get_decode (text : List Char) (f : Part) :
    f.get (decode text) = (f.read (cursor f.earlier text)).1 := by
  cases f <;> rfl

theorem all_eq (f : Part) : all = f.earlier ++ f :: f.later := by
  cases f <;> rfl

theorem encode_eq_all (v : Version) : v.encode = forms v all := by
  simp only [encode, forms, all, form, List.map_cons, List.map_nil, List.flatten_cons,
    List.flatten_nil, List.append_nil, List.append_assoc]

/-- A token is written part by part. -/
theorem encode_eq_forms (v : Version) (f : Part) :
    v.encode = forms v f.earlier ++ (f.form v ++ forms v f.later) := by
  rw [encode_eq_all, all_eq f, forms, List.map_append, List.flatten_append, List.map_cons,
    List.flatten_cons]
  rfl

/-- Every part is read back, and nothing is left where it breaks off. -/
theorem reads (hv : v.Fits) (f : Part) : Reads f.read (f.form v) (f.get v) := by
  cases f with
  | containerAccess => exact reads_decodeGroup (fun a ha => reads_decodeAccess (hv.1 a ha))
  | entryAccess => exact reads_decodeGroup (fun a ha => reads_decodeAccess (hv.2 a ha))
  | pathAttribute => exact reads_decodeGroup (fun a _ => reads_decodeAttribute a)
  | uri => exact reads_packText v.uri
  | modified =>
      have h := (Packing.reads_unpack delimiter_ne_escape
        (Text.signedDecimal v.modified.toInt)).map (fun field => (Text.int64? field).getD 0)
      rwa [Text.int64?_signedDecimal, Option.getD_some] at h
  | length =>
      have h := (Packing.reads_unpack delimiter_ne_escape
        (Text.decimal v.length.toNat)).map (fun field => (Text.uint64? field).getD 0)
      rwa [Text.uint64?_decimal, Option.getD_some] at h
  | ambiguity =>
      refine ⟨fun rest => ?_, fun cut hcut hne => ?_⟩
      · simp only [form, read, List.singleton_append, List.head?_cons, Option.bind_some,
          ofLetter?_letter, Option.getD_some, List.tail_cons]
        rfl
      · have hnil : cut = [] :=
          (List.prefix_concat_iff.mp hcut).elim (absurd · hne) List.prefix_nil.mp
        rw [hnil]
        rfl

/-- **Where a reader stands**: after the parts it has read, or at the end of the text. -/
theorem cursor_eq (hv : v.Fits) : ∀ (parts : List Part) {more text : List Char},
    text <+: forms v parts ++ more →
      cursor parts text = text.drop (forms v parts).length ∧ cursor parts text <+: more
  | [], _, _, h => ⟨rfl, h⟩
  | f :: parts, more, text, h => by
      have hforms : forms v (f :: parts) = f.form v ++ forms v parts := rfl
      rw [hforms, List.append_assoc] at h
      obtain ⟨hrest, hmore⟩ := (reads hv f).rest_eq h
      obtain ⟨hcursor, hlast⟩ := cursor_eq hv parts hmore
      refine ⟨?_, hlast⟩
      rw [hforms, List.length_append, ← List.drop_drop, ← hrest]
      exact hcursor

end Part

/-- What stands for a version of which nothing is known. -/
def blank : Version := ⟨none, none, none, "", 0, 0, .forcedInclude⟩

theorem Part.read_nil (f : Part) : (f.read []).1 = f.get blank := by
  cases f <;> rfl

/-- **A token that breaks off goes as far as it goes.** Of whatever part of a token there is, each
field that is there in full is read back; each field that would begin where the text has ended, or
later, is read as blank; and the URI, whether it is there in full, in part or not at all, is read as
the beginning of what it was. -/
theorem ofToken_cut {v : Version} (hv : v.Fits) {p s : String} (hp : p ++ s = v.token) :
    (∀ f : Part, Part.forms v f.earlier ++ f.form v <+: p.toList → f.get (ofToken p) = f.get v) ∧
      (∀ f : Part, p.toList <+: Part.forms v f.earlier → f.get (ofToken p) = f.get blank) ∧
      (ofToken p).uri.toList <+: v.uri.toList := by
  have hstarts : ∀ f : Part,
      p.toList <+: Part.forms v f.earlier ++ (f.form v ++ Part.forms v f.later) := by
    intro f
    rw [← Part.encode_eq_forms, ← toList_token, ← hp, String.toList_append]
    exact List.prefix_append _ _
  refine ⟨fun f hwhole => ?_, fun f hgone => ?_, ?_⟩
  · obtain ⟨rest, hrest⟩ := hwhole
    rw [ofToken, Part.get_decode, (Part.cursor_eq hv f.earlier (hstarts f)).1, ← hrest,
      List.append_assoc, List.drop_left, (Part.reads hv f).whole]
  · rw [ofToken, Part.get_decode, (Part.cursor_eq hv f.earlier (hstarts f)).1,
      List.drop_eq_nil_of_le hgone.length_le, Part.read_nil]
  · have huri : (ofToken p).uri = String.ofList
        (Packing.unpack delimiter (Part.cursor Part.uri.earlier p.toList)).1 :=
      Part.get_decode p.toList .uri
    rw [huri, String.toList_ofList]
    exact Packing.unpack_prefix delimiter_ne_escape (Part.cursor_eq hv _ (hstarts .uri)).2

/-- The token of the sample, as far as into its URI. -/
def sampleCut : String :=
  "-+3+S-1-1-0+a\\+b+2\\++1+DEAD_AUTHORITY++path+docs\\\\ä-b.pdf\\++file:////do"

theorem ofToken_cut_sample :
    sample.Fits ∧ sampleCut ++ "cs/a-b.pdf+-1700000000000+42+F" = sample.token ∧
      (ofToken sampleCut).entryAccess = sample.entryAccess ∧ (ofToken sampleCut).modified = 0 ∧
      (ofToken sampleCut).uri.toList <+: sample.uri.toList := by
  have hcut : sampleCut ++ "cs/a-b.pdf+-1700000000000+42+F" = sample.token := by decide +kernel
  obtain ⟨hwhole, hgone, huri⟩ := ofToken_cut sample_fits hcut
  exact ⟨sample_fits, hcut, hwhole .entryAccess (by decide +kernel),
    hgone .modified (by decide +kernel), huri⟩

end Version

end Harvest
