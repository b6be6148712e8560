import CellScript.Python.Grammar.Rows1
import CellScript.Python.Grammar.Rows2
import CellScript.Python.Grammar.Rows3
import CellScript.Python.Grammar.Rows4
import CellScript.Python.Grammar.Rows5
import CellScript.Python.Grammar.Rows6

set_option autoImplicit false

/-! # All rows of the automaton -/

namespace CellScript.Python.Grammar

/-- The number of rows on a shelf. -/
def rowsPerShelf : Nat := 32

/-- What each state does with a token. -/
def moveRows : List (List Nat) :=
  [moves0, moves1, moves2, moves3, moves4, moves5, moves6, moves7, moves8, moves9, moves10,
   moves11, moves12, moves13, moves14, moves15, moves16, moves17, moves18, moves19, moves20,
   moves21, moves22, moves23, moves24, moves25, moves26, moves27, moves28, moves29, moves30,
   moves31, moves32, moves33, moves34, moves35, moves36, moves37, moves38, moves39, moves40,
   moves41, moves42, moves43, moves44, moves45, moves46, moves47, moves48, moves49, moves50,
   moves51, moves52, moves53, moves54, moves55, moves56, moves57, moves58, moves59, moves60,
   moves61, moves62, moves63, moves64, moves65, moves66, moves67, moves68, moves69, moves70,
   moves71, moves72, moves73, moves74, moves75, moves76, moves77, moves78, moves79, moves80,
   moves81, moves82, moves83, moves84, moves85, moves86]

/-- Where each state goes after a phrase. -/
def gotoRows : List (List Nat) :=
  [gotos0, gotos1, gotos2, gotos3, gotos4, gotos5, gotos6, gotos7, gotos8, gotos9, gotos10,
   gotos11, gotos12, gotos13, gotos14, gotos15, gotos16, gotos17, gotos18, gotos19, gotos20,
   gotos21, gotos22, gotos23, gotos24, gotos25, gotos26, gotos27, gotos28, gotos29, gotos30,
   gotos31, gotos32, gotos33, gotos34, gotos35, gotos36, gotos37, gotos38, gotos39, gotos40,
   gotos41, gotos42, gotos43, gotos44, gotos45, gotos46, gotos47, gotos48, gotos49, gotos50,
   gotos51, gotos52, gotos53, gotos54, gotos55, gotos56, gotos57, gotos58, gotos59, gotos60,
   gotos61, gotos62, gotos63, gotos64, gotos65, gotos66, gotos67, gotos68, gotos69, gotos70,
   gotos71, gotos72, gotos73, gotos74, gotos75, gotos76, gotos77, gotos78, gotos79, gotos80,
   gotos81, gotos82, gotos83, gotos84, gotos85, gotos86]

end CellScript.Python.Grammar
