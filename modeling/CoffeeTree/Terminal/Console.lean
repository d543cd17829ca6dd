import CoffeeTree.Terminal.Box
import CoffeeTree.Terminal.Markup
import CoffeeTree.Terminal.Pretty

/-!
# A page of a terminal

The console that prints on a page of a given width.
-/

namespace CoffeeTree.Terminal

/-- The width of the page, where the terminal may tell how many columns it has. -/
def pageWidth (columns : Option Nat) : Nat := columns.getD 80

/-- The widths of the columns. Those of a table that fills the page are shared out. -/
def columnWidths (page : Nat) (t : Console.Table) : List Nat :=
  if t.fillsPage then fit (page - t.columns.length - 1) (t.columns.map (·.share))
  else t.columns.map fun c ↦ min (page - 2) (naturalWidth c.heading c.cells)

/-- A page of the given width. -/
def page (width : Nat) : Console where
  text := printed width
  message := printedMessage width
  node n := printed width (n.toNested.render width)
  panel title text := printedLines width (panel width title text)
  table t :=
    printedLines width (table t.title
      ((columnWidths width t).zipWith (fun w c ↦ ⟨w, c.heading, c.cells⟩) t.columns))

end CoffeeTree.Terminal
