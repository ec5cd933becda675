import TaskShell.EditDistance

/-!
# Suggestions

Words of a vocabulary that stand near a mistyped one.

## Main definitions

* `Suggestion.closest?` — the nearest option within a threshold, the first of several.
* `Suggestion.nearest` — up to three options within distance two, nearest first.
* `Suggestion.isNear` — whether some option is within a threshold.
-/

set_option autoImplicit false

namespace TaskShell.Suggestion

/-- The nearest option that is nearer than `bound`, or else `best`. -/
def closestFrom (word : String) : Option String → Int → List String → Option String
  | best, _, [] => best
  | best, bound, option :: options =>
    let distance : Int := EditDistance.ofWords word option
    if distance < bound then closestFrom word (some option) distance options
    else closestFrom word best bound options

/-- The first of the options nearest to a word, if it is within the threshold. -/
def closest? (word : String) (options : List String) (threshold : Int := 3) : Option String :=
  closestFrom word none (threshold + 1) options

/-- Up to three options within distance two, nearest first and equally near ones in order. -/
def nearest (word : String) (options : List String) : List String :=
  let scored := options.map fun option => (EditDistance.ofWords word option, option)
  let close := scored.filter fun pair => pair.1 ≤ 2
  ((close.mergeSort fun a b => a.1 ≤ b.1).take 3).map Prod.snd

/-- Whether some option is within the threshold. -/
def isNear (word : String) (options : List String) (threshold : Int := 2) : Bool :=
  (closest? word options threshold).isSome

end TaskShell.Suggestion
