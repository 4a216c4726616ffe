import Harvest.Proofs.GlobLanguage

/-!
# The walk by indices

The walk takes its texts apart from the left. Where texts are kept as they are and the walk holds
indices into them, it is a loop, and a mismatch sets both of its indices back. So neither of them
tells how long the loop goes on, and that they stay inside their texts is not to be seen from a turn
by itself.

What stands behind the indices is a state of the walk, and a turn of the loop is a move of it
(`turn_follows`), as long as the indices are inside; and then they are inside again. Since every
move takes something from an effort that was bounded from the start, the loop comes to the verdict
of the walk in a number of turns that grows with the product of the two lengths (`loop_ends`).
-/

namespace Harvest.Glob

/-! ## The loop -/

/-- Where the loop stands. -/
structure Place where
  /-- The index of the next character of the candidate. -/
  candidate : Nat
  /-- The index of the next character of the glob. -/
  glob : Nat
  /-- The index of the latest star, and that of the first character which it has not swallowed. -/
  star : Option (Nat × Nat)
deriving DecidableEq, Repr

namespace Place

/-- What a turn comes to. -/
inductive Turn where
  | verdict (matched : Bool)
  | again (next : Place)
  /-- A character was asked for that is not there. -/
  | outside
deriving DecidableEq, Repr

/-- Where a loop begins. -/
def start : Place := ⟨0, 0, none⟩

/-- Sets both indices back to the latest star, which swallows one character more. -/
def backtrack (i : Place) : Turn :=
  match i.star with
  | some (glob, candidate) => .again ⟨candidate + 1, glob + 1, some (glob, candidate + 1)⟩
  | none => .verdict false

/-- One turn. Nothing fits behind the end of the glob. -/
def turn (candidate glob : List Char) (i : Place) : Turn :=
  match candidate[i.candidate]?, glob[i.glob]? with
  | none, _ => .outside
  | some _, none => i.backtrack
  | some c, some g =>
    if g = '*' then .again ⟨i.candidate, i.glob + 1, some (i.glob, i.candidate)⟩
    else if g = '?' ∨ g = c then .again ⟨i.candidate + 1, i.glob + 1, i.star⟩
    else i.backtrack

/-- What is left to do when the candidate has been used up: what is behind the index has to be
stars. The index may be at the end of the glob, but not behind it. -/
def finish (glob : List Char) (i : Place) : Turn :=
  if i.glob ≤ glob.length then .verdict ((glob.drop i.glob).all (· == '*')) else .outside

/-- What the loop comes to if it takes so many turns at most; `again` if it is not over by then. -/
def loop (candidate glob : List Char) : Nat → Place → Turn
  | 0, i => if i.candidate < candidate.length then .again i else i.finish glob
  | turns + 1, i =>
    if i.candidate < candidate.length then
      match i.turn candidate glob with
      | .again next => loop candidate glob turns next
      | ended => ended
    else i.finish glob

/-- The places at which the loop comes to stand. -/
inductive Reached (candidate glob : List Char) : Place → Prop where
  | start : Reached candidate glob start
  | turn {i next : Place} : Reached candidate glob i → i.candidate < candidate.length →
      i.turn candidate glob = .again next → Reached candidate glob next

/-- Every index is inside its text, or at the end of it where nothing is asked for. -/
structure Within (candidate glob : List Char) (i : Place) : Prop where
  candidate_le : i.candidate ≤ candidate.length
  glob_le : i.glob ≤ glob.length
  star_lt : ∀ g c, i.star = some (g, c) → g < glob.length ∧ c ≤ i.candidate

/-- What is left of the texts at a place. -/
def state (candidate glob : List Char) (i : Place) : State where
  candidate := candidate.drop i.candidate
  glob := glob.drop i.glob
  resume := i.star.map (fun s => ⟨glob.drop (s.1 + 1), candidate.drop s.2⟩)

variable {candidate glob : List Char} {i : Place} {turns : Nat}

/-! ## Turns and moves -/

/-- A turn comes to what a move comes to, and a place that it leads to is inside the texts. -/
inductive Turn.Follows (candidate glob : List Char) : Turn → Move → Prop where
  | verdict (matched : Bool) : Follows candidate glob (.verdict matched) (.stop matched)
  | again {next : Place} (hwithin : next.Within candidate glob) :
      Follows candidate glob (.again next) (.go (next.state candidate glob))

theorem backtrack_follows (h : i.Within candidate glob) (hmore : i.candidate < candidate.length) :
    i.backtrack.Follows candidate glob (i.state candidate glob).backtrack := by
  obtain ⟨c, g, star⟩ := i
  cases star with
  | none => exact .verdict false
  | some star =>
      obtain ⟨sg, sc⟩ := star
      obtain ⟨hg, hc⟩ := h.star_lt sg sc rfl
      have hlt : sc < candidate.length := Nat.lt_of_le_of_lt hc hmore
      have hresume : (state candidate glob ⟨c, g, some (sg, sc)⟩).backtrack =
          .go (state candidate glob ⟨sc + 1, sg + 1, some (sg, sc + 1)⟩) := by
        unfold State.backtrack state
        rw [Option.map_some, List.drop_eq_getElem_cons hlt]
        rfl
      rw [hresume]
      refine .again ⟨hlt, hg, ?_⟩
      rintro g' c' heq
      obtain ⟨rfl, rfl⟩ := Prod.mk.inj (Option.some.inj heq)
      exact ⟨hg, Nat.le_refl _⟩

/-- **A turn of the loop is a move of the walk**, and leads from inside to inside. -/
theorem turn_follows (h : i.Within candidate glob) (hmore : i.candidate < candidate.length) :
    (i.turn candidate glob).Follows candidate glob (i.state candidate glob).move := by
  have hback := backtrack_follows h hmore
  have hc : candidate[i.candidate]? = some candidate[i.candidate] :=
    List.getElem?_eq_getElem hmore
  have hcandidate := List.drop_eq_getElem_cons hmore
  unfold turn
  rw [hc]
  rcases Nat.lt_or_eq_of_le h.glob_le with hlt | hend
  · have hg : glob[i.glob]? = some glob[i.glob] := List.getElem?_eq_getElem hlt
    have hglob := List.drop_eq_getElem_cons hlt
    rw [hg]
    dsimp only
    unfold state at hback ⊢
    rw [hcandidate, hglob] at hback ⊢
    by_cases hstar : glob[i.glob] = '*'
    · have hpass : Within candidate glob ⟨i.candidate, i.glob + 1, some (i.glob, i.candidate)⟩ := by
        refine ⟨h.candidate_le, hlt, ?_⟩
        rintro g c heq
        obtain ⟨rfl, rfl⟩ := Prod.mk.inj (Option.some.inj heq)
        exact ⟨hlt, Nat.le_refl _⟩
      have hfollows := Turn.Follows.again hpass
      unfold state at hfollows
      rw [Option.map_some, hcandidate] at hfollows
      rw [if_pos hstar, hstar]
      exact hfollows
    · rw [if_neg hstar, State.move_cons hstar]
      by_cases hfits : glob[i.glob] = '?' ∨ glob[i.glob] = candidate[i.candidate]
      · rw [if_pos hfits, if_pos hfits]
        have hnext : Within candidate glob ⟨i.candidate + 1, i.glob + 1, i.star⟩ := by
          refine ⟨hmore, hlt, fun g c heq => ?_⟩
          obtain ⟨hg, hc⟩ := h.star_lt g c heq
          exact ⟨hg, Nat.le_succ_of_le hc⟩
        exact .again hnext
      · rw [if_neg hfits, if_neg hfits]
        exact hback
  · have hg : glob[i.glob]? = none := List.getElem?_eq_none hend.ge
    have hglob : glob.drop i.glob = [] := List.drop_eq_nil_of_le hend.ge
    rw [hg]
    dsimp only
    unfold state at hback ⊢
    rw [hcandidate, hglob] at hback ⊢
    exact hback

theorem within_start (candidate glob : List Char) : start.Within candidate glob where
  candidate_le := Nat.zero_le _
  glob_le := Nat.zero_le _
  star_lt := nofun

/-- **The loop stays inside its texts.** -/
theorem Reached.within (h : Reached candidate glob i) : i.Within candidate glob := by
  induction h with
  | start => exact within_start candidate glob
  | turn hreached hmore hturn ih =>
      have hfollows := turn_follows ih hmore
      rw [hturn] at hfollows
      generalize (state candidate glob _).move = m at hfollows
      cases hfollows with
      | again hwithin => exact hwithin

/-! ## The loop and the walk -/

/-- While some of the candidate is left, there is effort to spend. -/
theorem effort_pos (hmore : i.candidate < candidate.length) :
    0 < (i.state candidate glob).effort := by
  have hpos : 0 < (candidate.drop i.candidate).length := by
    rw [List.length_drop]
    omega
  exact Nat.lt_of_lt_of_le hpos (Nat.le_add_left _ _)

/-- **The loop comes to the verdict of the walk**, in no more turns than the walk has effort. -/
theorem loop_eq_run : ∀ (turns : Nat) {i : Place}, i.Within candidate glob →
    (i.state candidate glob).Tied → (i.state candidate glob).effort ≤ turns →
      ∃ matched, (i.state candidate glob).run (turns + 1) = some matched ∧
        i.loop candidate glob turns = .verdict matched := by
  intro turns i h htied heffort
  by_cases hmore : i.candidate < candidate.length
  · have hpos : 0 < (i.state candidate glob).effort := effort_pos hmore
    cases turns with
    | zero => omega
    | succ turns =>
        have hfollows := turn_follows h hmore
        have hright := move_right htied
        rw [State.run, loop, if_pos hmore]
        generalize i.turn candidate glob = t, (i.state candidate glob).move = m at hfollows hright
        cases hfollows with
        | verdict matched => exact ⟨matched, rfl, rfl⟩
        | again hwithin =>
            obtain ⟨htied', _, hless⟩ := hright
            exact loop_eq_run turns hwithin htied' (by omega)
  · -- nothing is left of the candidate, and the index into the glob is inside
    have hnil : candidate.drop i.candidate = [] := List.drop_eq_nil_of_le (Nat.le_of_not_lt hmore)
    have hmove : (i.state candidate glob).move = .stop ((glob.drop i.glob).all (· == '*')) := by
      unfold state
      rw [hnil]
      rfl
    have hloop : i.loop candidate glob turns = i.finish glob := by
      cases turns with
      | zero => exact if_neg hmore
      | succ turns => exact if_neg hmore
    refine ⟨(glob.drop i.glob).all (· == '*'), ?_, ?_⟩
    · rw [State.run, hmove]
    · rw [hloop, finish, if_pos h.glob_le]

end Place

/-- **The loop ends**, with the verdict of the walk, after at most as many turns as there are pairs
of places in the two texts, the ends included; and every index it uses is inside its text. -/
theorem loop_ends (candidate glob : List Char) :
    Place.start.loop candidate glob ((candidate.length + 1) * (glob.length + 1)) =
        .verdict (fits candidate glob) ∧
      ∀ i, Place.Reached candidate glob i → i.Within candidate glob := by
  refine ⟨?_, fun i h => h.within⟩
  have heffort := Nat.le_of_lt_succ (effort_lt_moveBound candidate glob)
  obtain ⟨matched, hrun, hloop⟩ :=
    Place.loop_eq_run _ (Place.within_start candidate glob) nofun heffort
  have hfits : fits candidate glob = matched := by
    rw [fits]
    exact congrArg (Option.getD · false) hrun
  rw [hfits, hloop]

end Harvest.Glob
