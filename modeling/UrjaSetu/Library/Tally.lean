import UrjaSetu.Library.Dict

/-!
Dictionaries that count.

Owns: what is counted under all keys together, against what was counted in.
-/

namespace UrjaSetu.Library.Tally

variable {κ ι : Type*}

/-- What is counted under all keys. -/
def total (tally : Dict κ ℕ) : ℕ := (tally.entries.map Prod.snd).sum

@[simp] theorem total_empty : total (Dict.empty : Dict κ ℕ) = 0 := rfl

variable [DecidableEq κ]

theorem sum_putEntry (key : κ) (more : ℕ) (entries : List (κ × ℕ)) :
    ((putEntry key ((findEntry key entries).getD 0 + more) entries).map Prod.snd).sum =
      (entries.map Prod.snd).sum + more := by
  induction entries with
  | nil => simp [putEntry, findEntry]
  | cons entry rest inductionHypothesis =>
      obtain ⟨other, held⟩ := entry
      by_cases same : key = other
      · simp only [putEntry, findEntry, if_pos same, Option.getD_some, List.map_cons, List.sum_cons]
        omega
      · simp only [putEntry, findEntry, if_neg same, List.map_cons, List.sum_cons,
          inductionHypothesis]
        omega

/-- Counting so many more under a key. -/
theorem total_set (tally : Dict κ ℕ) (key : κ) (more : ℕ) :
    total (tally.set key ((tally.get? key).getD 0 + more)) = total tally + more :=
  sum_putEntry key more tally.entries

/-- A loop that counts. -/
theorem total_foldl (key : ι → κ) (more : ι → ℕ) (items : List ι) (tally : Dict κ ℕ) :
    total (items.foldl (fun tally item =>
      tally.set (key item) ((tally.get? (key item)).getD 0 + more item)) tally) =
        total tally + (items.map more).sum := by
  induction items generalizing tally with
  | nil => rfl
  | cons item rest inductionHypothesis =>
      rw [List.foldl_cons, inductionHypothesis, total_set, List.map_cons, List.sum_cons, add_assoc]

end UrjaSetu.Library.Tally
