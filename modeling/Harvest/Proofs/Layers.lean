import Mathlib.Order.Bounds.Basic
import Harvest.Proofs.Contexts

/-!
# Failures in layers

On its way up a failure is wrapped again and again, in what was being attempted and in the errors of
operations that could not go on. A layer shows a text and carries no code, so every layer is a
context (`Layer.around_eq_within`), and what holds of one context holds of any number of them by
induction on the layers.

A telling code settles the class, whatever is said above or below it. Where there is none, every
text speaks for itself: the class is the strongest that any of them speaks for
(`isGreatest_classOfTexts`), and a layer adds one voice. Either way no layer makes a class weaker
(`faultClass_le_wrapped`), and no layer hides a code (`code?_wrapped`).
-/

namespace Harvest

open Signature

variable {f g : Failure} {code : FaultCode}

/-! ## What a code settles -/

/-- Every code but one is telling. -/
theorem exists_classOfCode? (h : code ≠ .other) : ∃ c, classOfCode? (some code) = some c := by
  cases code with
  | other => exact absurd rfl h
  | notFound => exact ⟨_, rfl⟩
  | permissionDenied => exact ⟨_, rfl⟩
  | cancelled => exact ⟨_, rfl⟩
  | timedOut => exact ⟨_, rfl⟩
  | connectionLost => exact ⟨_, rfl⟩
  | busy => exact ⟨_, rfl⟩

theorem faultClass_of_code {c : FaultClass} (hcode : f.code? = some code)
    (hclass : classOfCode? (some code) = some c) : (ofFailure f).faultClass = c := by
  have hsignature : (ofFailure f).code = some code := hcode
  rw [faultClass, hsignature, hclass, Option.getD_some]

/-- Failures with the same telling code are classified alike, whatever their texts say. -/
theorem faultClass_eq_of_code (hf : f.code? = some code) (hg : g.code? = some code)
    (h : code ≠ .other) : (ofFailure g).faultClass = (ofFailure f).faultClass := by
  obtain ⟨c, hclass⟩ := exists_classOfCode? h
  rw [faultClass_of_code hf hclass, faultClass_of_code hg hclass]

/-- Without a telling code the texts decide. -/
theorem faultClass_of_untold (h : ∀ code, f.code? = some code → code = .other) :
    (ofFailure f).faultClass = (ofFailure f).classOfTexts := by
  have hnone : classOfCode? (ofFailure f).code = none := by
    cases hcode : (ofFailure f).code with
    | none => rfl
    | some code =>
        rw [h code hcode]
        rfl
  rw [faultClass, hnone, Option.getD_none]

/-- The first code on the way down is that of a cancellation if nothing above it has one. -/
theorem code?_of_cancelled {above below : List Cause}
    (hchain : f.chain = above ++ .cancelled :: below) (hbare : ∀ c ∈ above, c.code? = none) :
    f.code? = some .cancelled := by
  have habove : above.findSome? Cause.code? = none := List.findSome?_eq_none_iff.mpr hbare
  rw [Failure.code?, hchain, List.findSome?_append, habove, Option.none_or]
  rfl

/-! ## What the texts speak for -/

/-- The texts of a failure, outermost first. -/
def Failure.texts (f : Failure) : List String := f.chain.map Cause.text

theorem faultClass_plain (text : String) :
    (ofFailure (.plain text)).faultClass = classOfText text := by
  have hnone : classOfCode? (ofFailure (.plain text)).code = none := rfl
  rw [faultClass, hnone, Option.getD_none, classOfText]
  rfl

/-- The induction is on the causes below; a text on top adds one voice. -/
theorem isGreatest_classOfTexts (code : Option FaultCode) : ∀ (message : String)
    (causes : List String), IsGreatest {c | ∃ text ∈ message :: causes, classOfText text = c}
      (classOfTexts ⟨code, message, causes⟩)
  | message, [] => by
      have hone : {c | ∃ text ∈ [message], classOfText text = c} = {classOfText message} := by
        ext c
        simp [eq_comm]
      -- the code has no say
      have halone : classOfTexts ⟨code, message, []⟩ = classOfText message := rfl
      rw [hone, halone]
      exact isGreatest_singleton
  | message, cause :: causes => by
      have hbelow := isGreatest_classOfTexts code cause causes
      have hinsert : {c | ∃ text ∈ message :: cause :: causes, classOfText text = c} =
          insert (classOfText message) {c | ∃ text ∈ cause :: causes, classOfText text = c} := by
        ext c
        simp [eq_comm]
      rw [hinsert, classOfTexts_cons code code]
      exact hbelow.insert _

/-! ## Layers -/

/-- What a failure may be wrapped in. -/
inductive Layer where
  /-- What was being attempted. -/
  | context (text : String)
  /-- The error of an operation that could not go on. -/
  | operation (name : String)
deriving DecidableEq, Repr

/-- The failure in one more layer. -/
def Layer.around : Layer → Failure → Failure
  | context text, f => f.within text
  | operation name, f => (CrawlError.fatal name f).toFailure

/-- The failure in several layers, outermost first. -/
def Failure.wrapped (f : Failure) (layers : List Layer) : Failure := layers.foldr Layer.around f

/-- Whatever its kind, a layer is a context. -/
theorem Layer.around_eq_within (l : Layer) (f : Failure) : ∃ text, l.around f = f.within text := by
  cases l with
  | context text => exact ⟨text, rfl⟩
  | operation name => exact ⟨(CrawlError.fatal name f).display, rfl⟩

theorem faultClass_le_within (f : Failure) (context : String) :
    (ofFailure f).faultClass ≤ (ofFailure (f.within context)).faultClass := by
  have hcode : (ofFailure f).code = f.code? := rfl
  rw [faultClass_within, Failure.classWithin, faultClass, hcode]
  cases classOfCode? f.code? with
  | some c =>
      rw [Option.getD_some, Option.getD_some]
  | none =>
      rw [Option.getD_none, Option.getD_none]
      exact le_max_right _ _

/-- **No layer hides a code.** -/
theorem code?_wrapped (f : Failure) (layers : List Layer) : (f.wrapped layers).code? = f.code? := by
  induction layers with
  | nil => rfl
  | cons l layers ih =>
      obtain ⟨text, htext⟩ := l.around_eq_within (f.wrapped layers)
      have hstep : f.wrapped (l :: layers) = (f.wrapped layers).within text := htext
      have hcontext : ((f.wrapped layers).within text).code? = (f.wrapped layers).code? := rfl
      rw [hstep, hcontext, ih]

/-- **No layer makes a class weaker.** -/
theorem faultClass_le_wrapped (f : Failure) (layers : List Layer) :
    (ofFailure f).faultClass ≤ (ofFailure (f.wrapped layers)).faultClass := by
  induction layers with
  | nil => exact le_rfl
  | cons l layers ih =>
      obtain ⟨text, htext⟩ := l.around_eq_within (f.wrapped layers)
      have hstep : f.wrapped (l :: layers) = (f.wrapped layers).within text := htext
      rw [hstep]
      exact ih.trans (faultClass_le_within _ text)

theorem le_retryable (c : FaultClass) : c ≤ .retryable := by
  cases c <;> decide

/-! ## Judging at a moment -/

theorem classifyAt?_congr (h : (ofFailure g).faultClass = (ofFailure f).faultClass) (now : Moment) :
    classifyAt? (ofFailure g) now = classifyAt? (ofFailure f) now := by
  unfold classifyAt?
  rw [h]

/-- **How failures are classified in layers.** If the first code on the way down is telling, the
failure in a context is classified as the failure itself, and so is every failure with that code.
Otherwise its class is the strongest of those of its texts, each taken alone, and in a context the
stronger one of the context's class and its own. No number of layers keeps a failure from being
worth another try, and a cancellation with no code above it is one in any number of layers. -/
theorem classifyAt?_in_layers (f : Failure) (now : Moment) :
    (∀ code, f.code? = some code → code ≠ .other →
      (∀ context, classifyAt? (ofFailure (f.within context)) now = classifyAt? (ofFailure f) now) ∧
      ∀ g : Failure, g.code? = some code →
        classifyAt? (ofFailure g) now = classifyAt? (ofFailure f) now) ∧
    ((∀ code, f.code? = some code → code = .other) →
      IsGreatest {c | ∃ text ∈ f.texts, (ofFailure (.plain text)).faultClass = c}
        (ofFailure f).faultClass ∧
      ∀ context, classifyAt? (ofFailure (f.within context)) now =
        (classifyAt? (ofFailure f) now).map
          (fun judged => (max (ofFailure (.plain context)).faultClass judged.1, judged.2))) ∧
    (∀ layers w, classifyAt? (ofFailure f) now = some (.retryable, w) →
      classifyAt? (ofFailure (f.wrapped layers)) now = some (.retryable, w)) ∧
    ∀ above below, f.chain = above ++ .cancelled :: below → (∀ c ∈ above, c.code? = none) →
      ∀ layers, classifyAt? (ofFailure (f.wrapped layers)) now =
        (Window.after? now).map (fun w => (.cancelled, w)) := by
  refine ⟨fun code hcode htelling => ?_, fun huntold => ?_, fun layers w hretry => ?_,
    fun above below hchain hbare layers => ?_⟩
  · have halike : ∀ g : Failure, g.code? = some code →
        classifyAt? (ofFailure g) now = classifyAt? (ofFailure f) now :=
      fun g hg => classifyAt?_congr (faultClass_eq_of_code hcode hg htelling) now
    exact ⟨fun context => halike (f.within context) hcode, halike⟩
  · have htexts : f.texts = f.message :: f.below.map Cause.text := rfl
    have hsignature : ofFailure f = ⟨f.code?, f.message, f.below.map Cause.text⟩ := rfl
    have hwithin : ∀ context, (ofFailure (f.within context)).faultClass =
        max (classOfText context) (ofFailure f).faultClass := by
      intro context
      have huntold' : ∀ code, (f.within context).code? = some code → code = .other := huntold
      rw [faultClass_of_untold huntold', classOfTexts_within, faultClass_of_untold huntold]
    simp only [faultClass_plain]
    refine ⟨?_, fun context => ?_⟩
    · rw [faultClass_of_untold huntold, htexts, hsignature]
      exact isGreatest_classOfTexts _ _ _
    · unfold classifyAt?
      rw [hwithin, Option.map_map]
      rfl
  · obtain ⟨w', hw', hjudged⟩ := Option.map_eq_some_iff.mp hretry
    obtain ⟨hclass, rfl⟩ := Prod.mk.inj hjudged
    have hwrapped : (ofFailure (f.wrapped layers)).faultClass = .retryable :=
      (le_retryable _).antisymm (hclass ▸ faultClass_le_wrapped f layers)
    rw [classifyAt?, hwrapped, hw', Option.map_some]
  · have hcode : (f.wrapped layers).code? = some .cancelled := by
      rw [code?_wrapped, code?_of_cancelled hchain hbare]
    rw [classifyAt?, faultClass_of_code hcode rfl]

/-- A refusal whose texts speak for something else. -/
def refusedRequest : Failure := ⟨.plain "cancelled", [.system .permissionDenied "device busy"]⟩

/-- A failure of which only the texts say anything, each something else. -/
def brokenListing : Failure := ⟨.plain "no such file", [.service .unexpected false "pipe busy"]⟩

/-- A cancellation below a text that speaks for something else. -/
def stoppedListing : Failure := ⟨.plain "pipe busy", [.cancelled]⟩

theorem classifyAt?_in_layers_mixed :
    (refusedRequest.code? = some .permissionDenied ∧ FaultCode.permissionDenied ≠ .other ∧
      classifyAt? (ofFailure (refusedRequest.within "timed out")) 0 =
        classifyAt? (ofFailure refusedRequest) 0) ∧
    ((∀ code, brokenListing.code? = some code → code = .other) ∧
      classifyAt? (ofFailure (brokenListing.within "not found")) 0 =
        (classifyAt? (ofFailure brokenListing) 0).map
          (fun judged => (max (ofFailure (.plain "not found")).faultClass judged.1, judged.2)) ∧
      classifyAt? (ofFailure brokenListing) 0 = some (.retryable, Window.after 0) ∧
      classifyAt? (ofFailure (brokenListing.wrapped [.operation "list", .context "gone"])) 0 =
        some (.retryable, Window.after 0)) ∧
    (stoppedListing.chain = [.plain "pipe busy"] ++ .cancelled :: [] ∧
      classifyAt? (ofFailure (stoppedListing.wrapped [.operation "list", .context "busy"])) 0 =
        (Window.after? 0).map (fun w => (.cancelled, w))) := by
  have huntold : ∀ code, brokenListing.code? = some code → code = .other := by
    intro code hcode
    exact (Option.some.inj hcode).symm
  have hretry : classifyAt? (ofFailure brokenListing) 0 = some (.retryable, Window.after 0) := by
    decide +kernel
  have hbare : ∀ c ∈ [Cause.plain "pipe busy"], c.code? = none := by
    simp [Cause.code?]
  exact ⟨⟨rfl, by decide,
      ((classifyAt?_in_layers refusedRequest 0).1 _ rfl (by decide)).1 "timed out"⟩,
    ⟨huntold, ((classifyAt?_in_layers brokenListing 0).2.1 huntold).2 "not found", hretry,
      (classifyAt?_in_layers brokenListing 0).2.2.1 _ _ hretry⟩,
    rfl, (classifyAt?_in_layers stoppedListing 0).2.2.2 _ _ rfl hbare _⟩

end Harvest
