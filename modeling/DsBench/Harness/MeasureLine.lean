import DsBench.Foundation.ShellText
import DsBench.Harness.MergedReading

/-! # The measurement line

`_run_cell_one` runs `saturation.py` on the merged output and prints one line of five
words. What a caller finds in that line depends on how it takes the line apart.
-/

namespace DsBench.Harness

/-! ## The line -/

/-- `saturation.py` as `_run_cell_one` calls it; the CPU share is always printed as a
number. -/
def runSaturation (merged : Option Text) (cpuPct : Number) (pods : Nat) : Option Text :=
  (readFloat cpuPct.render).bind fun cpu => saturationLine merged 0 cpu 1 (some pods)

def measuredWord (merged : Option Text) (cpuPct : Number) (pods index : Nat) : Text :=
  (words (firstLine ((runSaturation merged cpuPct pods).getD []))).getD index []

def measureLine (merged : Option Text) (cpuPct : Number) (pods : Nat) : Text :=
  let word := measuredWord merged cpuPct pods
  cpuPct.render ++ ' ' :: (orDefault (word 1) "0".toList ++
    ' ' :: (orDefault (word 2) "1".toList ++
      ' ' :: (orDefault (word 3) "None".toList ++
        ' ' :: orDefault (word 4) "None".toList)))

variable {merged : Option Text} {cpuPct : Number} {pods : Nat}

theorem isWord_measured {index : Nat} {fallback : Text} (isFallback : IsWord fallback) :
    IsWord (orDefault (measuredWord merged cpuPct pods index) fallback) := by
  refine isWord_orDefault (fun nonempty => ?_) isFallback
  rw [measuredWord] at nonempty ⊢
  rw [List.getD_eq_getElem?_getD] at nonempty ⊢
  cases found : (words (firstLine ((runSaturation merged cpuPct pods).getD [])))[index]? with
  | none => simp [found] at nonempty
  | some word => exact isWord_of_mem_words (List.mem_of_getElem? found)

theorem words_measureLine :
    words (measureLine merged cpuPct pods) =
      [cpuPct.render, orDefault (measuredWord merged cpuPct pods 1) "0".toList,
        orDefault (measuredWord merged cpuPct pods 2) "1".toList,
        orDefault (measuredWord merged cpuPct pods 3) "None".toList,
        orDefault (measuredWord merged cpuPct pods 4) "None".toList] := by
  have isZero : IsWord "0".toList := isWord_of_visible rfl rfl
  have isOne : IsWord "1".toList := isWord_of_visible rfl rfl
  have isNone : IsWord "None".toList := isWord_of_visible rfl rfl
  rw [measureLine, words_cons (isWord_render cpuPct), words_cons (isWord_measured isZero),
    words_cons (isWord_measured isOne), words_cons (isWord_measured isNone),
    words_single (isWord_measured isNone)]

/-! ## What the script printed -/

theorem isWord_classification (classification : Classification) :
    IsWord classification.print := by
  cases classification <;> exact isWord_of_visible rfl rfl

/-- The words of what `saturation.py` printed, once it read a throughput. -/
theorem measuredWord_of_reading {thr : ℚ}
    (read : extractThroughput merged (some pods) = some thr) :
    measuredWord merged cpuPct pods 1 = printFloat thr ∧
    measuredWord merged cpuPct pods 2 =
      (if ((extractMerged merged).map windowsAligned).getD true then ['1'] else ['0']) ∧
    ∀ index, measuredWord merged cpuPct pods (index + 3) =
      (words (firstLine (printLatency (extractMerged merged) "p50_ms" ++
        ' ' :: printLatency (extractMerged merged) "p99_ms"))).getD index [] := by
  have isAligned : IsWord (if ((extractMerged merged).map windowsAligned).getD true then
      ['1'] else ['0']) := by
    split <;> exact isWord_of_visible rfl rfl
  unfold measuredWord runSaturation
  rw [readFloat_render, Option.bind_some, saturationLine, read]
  simp only [Option.map_some, Option.getD_some]
  rw [firstLine_word (isWord_classification _), firstLine_word (isWord_printFloat _),
    firstLine_word isAligned, words_cons (isWord_classification _),
    words_cons (isWord_printFloat _), words_cons isAligned]
  exact ⟨rfl, rfl, fun index => rfl⟩

theorem measuredWord_of_raise (raised : extractThroughput merged (some pods) = none)
    (index : Nat) : measuredWord merged cpuPct pods index = [] := by
  rw [measuredWord, runSaturation]
  rw [readFloat_render, Option.bind_some, saturationLine, raised]
  rfl

/-! ## Throughputs are read back exactly -/

theorem readFloat_mem_decimals {text : Text} {value : ℚ} (read : readFloat text = some value) :
    value ∈ decimals := by
  rw [readFloat] at read
  simp only at read
  split at read
  · cases read
  · split at read
    · rw [← Option.some.inj read]
      exact Number.toRat_mem_decimals _
    · cases read

theorem pyFloat_mem_decimals {json : Json} {value : ℚ} (read : json.pyFloat = some value) :
    value ∈ decimals := by
  cases json with
  | null => cases read
  | bool truth =>
      rw [← Option.some.inj read]
      cases truth with
      | false => exact zero_mem _
      | true => exact one_mem _
  | num number =>
      rw [← Option.some.inj read]
      exact number.toRat_mem_decimals
  | str text => exact readFloat_mem_decimals read
  | arr items => cases read
  | obj members => cases read

theorem extractThroughput_mem_decimals {thr : ℚ}
    (read : extractThroughput merged (some pods) = some thr) : thr ∈ decimals := by
  have zero : ∀ {thr : ℚ}, some (0 : ℚ) = some thr → thr ∈ decimals := by
    intro thr equal
    rw [← Option.some.inj equal]
    exact zero_mem _
  unfold extractThroughput throughputField at read
  split at read
  · exact zero read
  · split at read
    · exact zero read
    · split at read
      · cases read
      · exact zero read
      · split at read
        · exact pyFloat_mem_decimals read
        · split at read
          · exact pyFloat_mem_decimals read
          · exact zero read

theorem readFloat_throughputWord :
    readFloat (orDefault (measuredWord merged cpuPct pods 1) "0".toList) =
      some ((extractThroughput merged (some pods)).getD 0) := by
  cases read : extractThroughput merged (some pods) with
  | none =>
      rw [measuredWord_of_raise read]
      decide +kernel
  | some thr =>
      rw [(measuredWord_of_reading read).1, (isWord_printFloat thr).orDefault,
        readFloat_printFloat (extractThroughput_mem_decimals read)]
      rfl

end DsBench.Harness
