import MarkupTree.Text.CaseRange
import MarkupTree.Text.AlphanumericTable
import MarkupTree.Text.PrintableTable

namespace MarkupTree.Text

/-- A letter or number of any script, or the underscore. -/
def isWordChar (c : Char) : Bool := c == '_' || inRanges alphanumericRanges c

def isPrintable (c : Char) : Bool := inRanges printableRanges c

end MarkupTree.Text
