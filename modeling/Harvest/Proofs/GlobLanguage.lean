import Mathlib.Computability.Language
import Mathlib.Order.CompletePartialOrder
import Harvest.Glob

/-!
# What globs stand for

A glob denotes a language, one character after the other: a star stands for every text, a question
mark for every text of one character, and any other character for itself. The walk decides whether a
candidate belongs to that language (`matches_iff_language`).

A full search would try every choice for every star. The walk remembers the latest star only, and
loses nothing by it: while it is past a star it has consumed one character of the candidate for each
character of the glob, so whatever a remembered star could still swallow, a later star can swallow in
its place (`admits_star`). What the walk has yet to find out (`State.Admits`) is the same after every
move, and every move costs some of a bounded effort.
-/

namespace Harvest.Glob

/-- The texts that a character of a glob stands for. -/
def symbol (g : Char) : Language Char :=
  if g = '*' then ⊤ else if g = '?' then ⨆ c, {[c]} else {[g]}

/-- The texts that a glob stands for. -/
def language (glob : List Char) : Language Char := (glob.map symbol).prod

variable {glob candidate rest text : List Char} {g c : Char} {s next : State} {r : Resume}

/-! ## The language, character by character -/

theorem mem_symbol (hstar : g ≠ '*') : text ∈ symbol g ↔ ∃ c, text = [c] ∧ (g = '?' ∨ g = c) := by
  rw [symbol, if_neg hstar]
  by_cases hmark : g = '?'
  · rw [if_pos hmark, Language.mem_iSup]
    exact exists_congr (fun c => (and_iff_left (Or.inl hmark)).symm)
  · rw [if_neg hmark]
    constructor
    · intro h
      exact ⟨g, h, Or.inr rfl⟩
    · rintro ⟨c, rfl, h | rfl⟩
      · exact absurd h hmark
      · rfl

theorem language_cons (g : Char) (glob : List Char) :
    language (g :: glob) = symbol g * language glob := by
  unfold language
  rw [List.map_cons, List.prod_cons]

theorem mem_language_nil : text ∈ language [] ↔ text = [] := Language.mem_one text

/-- A star swallows any beginning of the text. -/
theorem mem_language_star :
    text ∈ language ('*' :: glob) ↔ ∃ rest, rest <:+ text ∧ rest ∈ language glob := by
  rw [language_cons, Language.mem_mul]
  constructor
  · rintro ⟨swallowed, _, rest, hrest, rfl⟩
    exact ⟨rest, List.suffix_append _ _, hrest⟩
  · rintro ⟨rest, ⟨swallowed, rfl⟩, hrest⟩
    exact ⟨swallowed, trivial, rest, hrest, rfl⟩

/-- Anything else takes exactly one character. -/
theorem mem_language_cons (hstar : g ≠ '*') : text ∈ language (g :: glob) ↔
    ∃ c rest, text = c :: rest ∧ (g = '?' ∨ g = c) ∧ rest ∈ language glob := by
  rw [language_cons, Language.mem_mul]
  constructor
  · rintro ⟨a, ha, rest, hrest, rfl⟩
    obtain ⟨c, rfl, hc⟩ := (mem_symbol hstar).mp ha
    exact ⟨c, rest, rfl, hc, hrest⟩
  · rintro ⟨c, rest, rfl, hc, hrest⟩
    exact ⟨[c], (mem_symbol hstar).mpr ⟨c, rfl, hc⟩, rest, hrest, rfl⟩

theorem cons_mem_language_cons (hstar : g ≠ '*') : c :: rest ∈ language (g :: glob) ↔
    (g = '?' ∨ g = c) ∧ rest ∈ language glob := by
  rw [mem_language_cons hstar]
  constructor
  · rintro ⟨c', rest', heq, hc, hrest⟩
    obtain ⟨rfl, rfl⟩ := List.cons.inj heq
    exact ⟨hc, hrest⟩
  · rintro ⟨hc, hrest⟩
    exact ⟨c, rest, rfl, hc, hrest⟩

/-- Nothing is left to match with if only stars are left. -/
theorem nil_mem_language : ∀ {glob : List Char},
    [] ∈ language glob ↔ glob.all (· == '*') = true
  | [] => by simp [mem_language_nil]
  | g :: glob => by
      rw [List.all_cons, Bool.and_eq_true, beq_iff_eq]
      by_cases hstar : g = '*'
      · subst hstar
        rw [mem_language_star]
        constructor
        · rintro ⟨rest, hrest, hmem⟩
          obtain rfl := List.suffix_nil.mp hrest
          exact ⟨rfl, nil_mem_language.mp hmem⟩
        · rintro ⟨_, hall⟩
          exact ⟨[], List.suffix_rfl, nil_mem_language.mpr hall⟩
      · rw [mem_language_cons hstar]
        constructor
        · rintro ⟨c, rest, heq, _⟩
          cases heq
        · rintro ⟨h, _⟩
          exact absurd h hstar

/-- Without a star, a glob takes as many characters as it has itself, and leaves the others. -/
theorem drop_mem_language : ∀ {passed text : List Char}, '*' ∉ passed →
    text ∈ language (passed ++ glob) →
      passed.length ≤ text.length ∧ text.drop passed.length ∈ language glob
  | [], text, _, h => ⟨Nat.zero_le _, h⟩
  | g :: passed, text, hstars, h => by
      obtain ⟨hg, hpassed⟩ := not_or.mp (fun h => hstars (List.mem_cons.mpr h))
      obtain ⟨c, rest, rfl, _, hrest⟩ := (mem_language_cons (Ne.symm hg)).mp h
      obtain ⟨hlen, hmem⟩ := drop_mem_language hpassed hrest
      exact ⟨Nat.succ_le_succ hlen, hmem⟩

/-! ## What is left to find out -/

/-- Since the latest star the walk has consumed one character of the candidate for each character of
the glob, and none of these is a star. -/
def State.Tied (s : State) : Prop :=
  ∀ r, s.resume = some r → ∃ passed used, r.glob = passed ++ s.glob ∧
    r.candidate = used ++ s.candidate ∧ used.length = passed.length ∧ '*' ∉ passed

/-- If the latest star swallows more than it has so far, what is left of the candidate belongs to
what is left of the glob. -/
def Resume.Admits (r : Resume) : Prop :=
  ∃ rest, rest <:+ r.candidate ∧ rest.length < r.candidate.length ∧ rest ∈ language r.glob

/-- There is a match in which all stars but the latest swallow what they have swallowed so far. -/
def State.Admits (s : State) : Prop :=
  s.candidate ∈ language s.glob ∨ ∃ r, s.resume = some r ∧ r.Admits

/-- A bound for the moves that are left. -/
def State.effort (s : State) : Nat :=
  (match s.resume with
    | some r => r.glob.length * r.candidate.length
    | none => s.glob.length * s.candidate.length) + s.candidate.length

theorem admits_resume (h : s.resume = some r) :
    s.Admits ↔ s.candidate ∈ language s.glob ∨ r.Admits := by
  unfold State.Admits
  simp [h]

theorem admits_start (h : s.resume = none) : s.Admits ↔ s.candidate ∈ language s.glob := by
  unfold State.Admits
  simp [h]

/-- A suffix that is no longer than another one is a suffix of it. -/
theorem suffix_drop_of_length_lt {used rest : List Char} (h : rest <:+ used ++ candidate)
    (hlen : rest.length < (used ++ candidate).length) (n : Nat) (hn : used.length = n) :
    rest.drop n <:+ candidate := by
  refine List.suffix_of_suffix_length_le ((List.drop_suffix n rest).trans h)
    (List.suffix_append _ _) ?_
  rw [List.length_append] at hlen
  rw [List.length_drop]
  omega

/-- What remains to be matched if the latest star swallows more: the characters consumed since are
consumed again, and a shorter rest of the candidate is left. -/
theorem Resume.Admits.resumed (htied : s.Tied) (hr : s.resume = some r) (h : r.Admits) :
    ∃ rest, rest <:+ s.candidate ∧ rest.length < s.candidate.length ∧ rest ∈ language s.glob := by
  obtain ⟨passed, used, hglob, hcandidate, hlen, hstars⟩ := htied r hr
  obtain ⟨rest, hsuffix, hshort, hmem⟩ := h
  rw [hcandidate] at hsuffix hshort
  rw [hglob] at hmem
  obtain ⟨hlong, hrest⟩ := drop_mem_language hstars hmem
  refine ⟨rest.drop passed.length, suffix_drop_of_length_lt hsuffix hshort _ hlen, ?_, hrest⟩
  rw [List.length_append] at hshort
  rw [List.length_drop]
  omega

/-! ## The moves -/

/-- Anything but a star fits the next character, or the walk is stuck. -/
theorem State.move_cons {resume : Option Resume} (hstar : g ≠ '*') :
    State.move ⟨c :: candidate, g :: glob, resume⟩ =
      if g = '?' ∨ g = c then .go ⟨candidate, glob, resume⟩
      else State.backtrack ⟨c :: candidate, g :: glob, resume⟩ := by
  unfold State.move
  split <;> simp_all

/-- **A later star takes the place of an earlier one.** Whatever else the earlier star could swallow,
the later one can swallow. -/
theorem admits_star (htied : s.Tied) (hglob : s.glob = '*' :: glob) :
    s.Admits ↔ s.candidate ∈ language s.glob := by
  refine ⟨?_, Or.inl⟩
  rintro (h | ⟨r, hr, h⟩)
  · exact h
  · obtain ⟨rest, hrest, _, hmem⟩ := h.resumed htied hr
    rw [hglob, mem_language_star] at hmem ⊢
    obtain ⟨rest', hrest', hmem'⟩ := hmem
    exact ⟨rest', hrest'.trans hrest, hmem'⟩

/-- Passing a star, which swallows nothing so far. -/
theorem pass_spec (htied : s.Tied) (hglob : s.glob = '*' :: glob) (hmore : s.candidate ≠ []) :
    let next : State := ⟨s.candidate, glob, some ⟨glob, s.candidate⟩⟩
    next.Tied ∧ (next.Admits ↔ s.Admits) ∧ next.effort < s.effort := by
  intro next
  refine ⟨?_, ?_, ?_⟩
  · rintro r hr
    obtain rfl := Option.some.inj hr
    exact ⟨[], [], rfl, rfl, rfl, List.not_mem_nil⟩
  · rw [admits_star htied hglob, hglob, mem_language_star, admits_resume rfl]
    constructor
    · rintro (h | ⟨rest, hrest, _, hmem⟩)
      · exact ⟨s.candidate, List.suffix_rfl, h⟩
      · exact ⟨rest, hrest, hmem⟩
    · rintro ⟨rest, hrest, hmem⟩
      -- either the star swallows nothing, or it swallows more
      rcases hrest.length_le.lt_or_eq with hlt | heq
      · exact Or.inr ⟨rest, hrest, hlt, hmem⟩
      · obtain rfl := hrest.eq_of_length heq
        exact Or.inl hmem
  · have hpos := List.length_pos_iff.mpr hmore
    have hlength : s.glob.length = glob.length + 1 := by rw [hglob, List.length_cons]
    have hstar : glob.length * s.candidate.length < s.glob.length * s.candidate.length := by
      rw [hlength, Nat.succ_mul]
      omega
    change glob.length * s.candidate.length + s.candidate.length < _
    unfold State.effort
    cases hr : s.resume with
    | none => exact Nat.add_lt_add_right hstar _
    | some r =>
        obtain ⟨passed, used, hrglob, hrcandidate, _, _⟩ := htied r hr
        have hle : s.glob.length * s.candidate.length ≤ r.glob.length * r.candidate.length := by
          refine Nat.mul_le_mul ?_ ?_
          · rw [hrglob, List.length_append]
            omega
          · rw [hrcandidate, List.length_append]
            omega
        exact Nat.add_lt_add_right (hstar.trans_le hle) _

/-- Consuming a character that fits. -/
theorem consume_spec (htied : s.Tied) (hcandidate : s.candidate = c :: candidate)
    (hglob : s.glob = g :: glob) (hstar : g ≠ '*') (hfits : g = '?' ∨ g = c) :
    let next : State := ⟨candidate, glob, s.resume⟩
    next.Tied ∧ (next.Admits ↔ s.Admits) ∧ next.effort < s.effort := by
  intro next
  refine ⟨?_, ?_, ?_⟩
  · intro r hr
    obtain ⟨passed, used, hrglob, hrcandidate, hlen, hstars⟩ := htied r hr
    refine ⟨passed ++ [g], used ++ [c], ?_, ?_, ?_, ?_⟩
    · rw [hrglob, hglob, List.append_assoc]
      rfl
    · rw [hrcandidate, hcandidate, List.append_assoc]
      rfl
    · rw [List.length_append, List.length_append, hlen]
      rfl
    · intro hmem
      rcases List.mem_append.mp hmem with h | h
      · exact hstars h
      · exact hstar (List.mem_singleton.mp h).symm
  · change candidate ∈ language glob ∨ _ ↔ s.candidate ∈ language s.glob ∨ _
    rw [hcandidate, hglob, cons_mem_language_cons hstar, and_iff_right hfits]
  · have hshorter : candidate.length < s.candidate.length := by
      rw [hcandidate]
      exact Nat.lt_succ_self _
    change (match s.resume with
      | some r => r.glob.length * r.candidate.length
      | none => glob.length * candidate.length) + candidate.length < _
    unfold State.effort
    cases s.resume with
    | some r => exact Nat.add_lt_add_left hshorter _
    | none =>
        refine Nat.add_lt_add_of_le_of_lt (Nat.mul_le_mul ?_ hshorter.le) hshorter
        rw [hglob]
        exact Nat.le_succ _

/-- What a move has to do for the walk to be right: a verdict is true, and the next state asks the
same question and leaves fewer moves. -/
def Move.Right (s : State) : Move → Prop
  | .stop matched => matched = true ↔ s.Admits
  | .go next => next.Tied ∧ (next.Admits ↔ s.Admits) ∧ next.effort < s.effort

/-- Where the walk is stuck, only the latest star can help. -/
theorem backtrack_right (htied : s.Tied) (hstuck : s.candidate ∉ language s.glob) :
    s.backtrack.Right s := by
  unfold State.backtrack
  split
  · rename_i rglob c rcandidate hr
    obtain ⟨passed, used, hrglob, hrcandidate, hlen, _⟩ := htied _ hr
    refine ⟨?_, ?_, ?_⟩
    · rintro r hnext
      obtain rfl := Option.some.inj hnext
      exact ⟨[], [], rfl, rfl, rfl, List.not_mem_nil⟩
    · rw [admits_resume hr, or_iff_right hstuck, admits_resume rfl]
      constructor
      · rintro (h | ⟨rest, hrest, hlt, hmem⟩)
        · exact ⟨rcandidate, List.suffix_cons _ _, Nat.lt_succ_self _, h⟩
        · exact ⟨rest, hrest.trans (List.suffix_cons _ _), hlt.trans (Nat.lt_succ_self _), hmem⟩
      · rintro ⟨rest, hrest, hlt, hmem⟩
        have hrest' : rest <:+ rcandidate :=
          (List.suffix_cons_iff.mp hrest).resolve_left (fun h => by simp [h] at hlt)
        rcases hrest'.length_le.lt_or_eq with hlt' | heq
        · exact Or.inr ⟨rest, hrest', hlt', hmem⟩
        · obtain rfl := hrest'.eq_of_length heq
          exact Or.inl hmem
    · -- the walk has come no further past the star than the glob goes on
      have hfar : rcandidate.length < s.candidate.length + rglob.length := by
        have hused := congrArg List.length hrcandidate
        have hpassed := congrArg List.length hrglob
        simp only [List.length_cons, List.length_append] at hused hpassed
        omega
      change rglob.length * rcandidate.length + rcandidate.length < _
      unfold State.effort
      rw [hr]
      change _ < rglob.length * (rcandidate.length + 1) + s.candidate.length
      rw [Nat.mul_succ]
      omega
  · rename_i hnone
    change false = true ↔ s.Admits
    refine iff_of_false nofun ?_
    rintro (h | ⟨⟨rglob, rcandidate⟩, hr, rest, hrest, hlt, _⟩)
    · exact hstuck h
    · cases rcandidate with
      | nil => exact absurd hlt (Nat.not_lt_zero _)
      | cons c rcandidate => exact hnone rglob c rcandidate hr

/-- **Every move is right.** -/
theorem move_right (htied : s.Tied) : s.move.Right s := by
  obtain ⟨candidate, glob, resume⟩ := s
  cases candidate with
  | nil =>
      -- no star can swallow more than there is
      change glob.all (· == '*') = true ↔ _
      rw [← nil_mem_language]
      refine ⟨Or.inl, ?_⟩
      rintro (h | ⟨r, hr, h⟩)
      · exact h
      · obtain ⟨rest, _, hlt, _⟩ := h.resumed htied hr
        exact absurd hlt (Nat.not_lt_zero _)
  | cons c candidate =>
      cases glob with
      | nil => exact backtrack_right htied (fun h => by cases mem_language_nil.mp h)
      | cons g glob =>
          by_cases hstar : g = '*'
          · subst hstar
            exact pass_spec htied rfl (List.cons_ne_nil _ _)
          · rw [State.move_cons hstar]
            split
            · exact consume_spec htied rfl rfl hstar ‹_›
            · rename_i hmiss
              refine backtrack_right htied (fun h => ?_)
              exact hmiss ((cons_mem_language_cons hstar).mp h).1

/-! ## The walk -/

/-- **The walk comes to the right verdict**, in no more moves than its effort. -/
theorem run_spec : ∀ (fuel : Nat) {s : State}, s.Tied → s.effort < fuel →
    ∃ matched, s.run fuel = some matched ∧ (matched = true ↔ s.Admits)
  | 0, _, _, hfuel => absurd hfuel (Nat.not_lt_zero _)
  | fuel + 1, s, htied, hfuel => by
      have hright := move_right htied
      rw [State.run]
      cases hmove : s.move with
      | stop matched =>
          rw [hmove] at hright
          exact ⟨matched, rfl, hright⟩
      | go next =>
          rw [hmove] at hright
          obtain ⟨hnext, hsame, hless⟩ := hright
          obtain ⟨matched, hrun, hverdict⟩ := run_spec fuel hnext (by omega)
          exact ⟨matched, hrun, hverdict.trans hsame⟩

/-- The walk has moves enough. -/
theorem effort_lt_moveBound (candidate glob : List Char) :
    State.effort ⟨candidate, glob, none⟩ < moveBound candidate.length glob.length := by
  change glob.length * candidate.length + candidate.length < _
  unfold moveBound
  rw [Nat.succ_mul, Nat.mul_succ, Nat.mul_comm]
  omega

theorem fits_iff (candidate glob : List Char) :
    fits candidate glob = true ↔ candidate ∈ language glob := by
  obtain ⟨matched, hrun, hverdict⟩ :=
    run_spec _ (s := ⟨candidate, glob, none⟩) nofun (effort_lt_moveBound candidate glob)
  rw [fits, hrun, Option.getD_some, hverdict, admits_start rfl]

/-- **Globs match what they stand for.** Whatever the candidate and the glob, the walk finds a match
exactly if the candidate belongs to the language of the glob; so a name fits a glob exactly if its
lowercase form belongs to the language of the glob's lowercase form. -/
theorem matches_iff_language :
    (∀ candidate glob : List Char, fits candidate glob = true ↔ candidate ∈ language glob) ∧
      ∀ name glob : String, matchesName name glob = true ↔
        Text.lowerEach name ∈ language (Text.lowerEach glob) :=
  ⟨fits_iff, fun _ _ => fits_iff _ _⟩

/-- The second star has to swallow more than it does at first. -/
example : fits "mississippi".toList "m*iss*pi".toList = true := by decide

end Harvest.Glob
