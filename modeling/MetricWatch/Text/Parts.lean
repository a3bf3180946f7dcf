/-!
# Parts of a text

`cut` takes a list apart at its first separator and `parts` at every one. What `parts` gives has
no separators in it, and one part more than there were separators.
-/

namespace MetricWatch.Text

/-- A list up to its first separator, and what follows that, if there is one. -/
def cut (isSeparator : Char → Bool) (cs : List Char) : List Char × Option (List Char) :=
  match cs.dropWhile (fun c => !isSeparator c) with
  | [] => (cs, none)
  | _ :: rest => (cs.takeWhile (fun c => !isSeparator c), some rest)

/-- The parts of a list between its separators. -/
def parts (isSeparator : Char → Bool) : List Char → List (List Char)
  | [] => [[]]
  | c :: rest =>
    if isSeparator c then [] :: parts isSeparator rest
    else match parts isSeparator rest with
      | [] => [[c]]
      | first :: more => (c :: first) :: more

theorem parts_ne_nil (isSeparator : Char → Bool) (cs : List Char) :
    parts isSeparator cs ≠ [] := by
  cases cs with
  | nil => simp [parts]
  | cons c rest =>
    unfold parts
    split
    · simp
    · split <;> simp

end MetricWatch.Text
