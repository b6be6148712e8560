import CellScript.Python.Kind

set_option autoImplicit false

/-! # Phrases and their shapes

A `Reduction` says how the topmost fragments are joined into a phrase, a `Shape` which of its parts
are shown under another name or fill a role of the phrase. -/

namespace CellScript.Python.Grammar

/-- Joining `size` fragments into a phrase `head`. Of two readings of a text the one with the
greater total `weight` is kept. -/
structure Reduction where
  head : Nat
  size : Nat
  weight : Int
  shape : Nat
deriving Inhabited

/-- What a phrase says about its parts, counted from `0`: the parts shown under another kind, and
whether that kind is named, and the parts that fill a role. -/
structure Shape where
  aliases : List (Nat × Kind × Bool)
  roles : List (Nat × Role)
deriving Inhabited

/-- Entries 0 to 15 of `reductions`. -/
def reductions0 : List Reduction :=
  [⟨108, 0, 0, 0⟩, ⟨108, 1, 0, 0⟩, ⟨241, 2, 0, 0⟩, ⟨124, 1, 0, 1⟩, ⟨179, 1, 0, 1⟩, ⟨189, 1, 0, 1⟩,
   ⟨184, 2, 0, 5⟩, ⟨201, 2, 0, 0⟩, ⟨201, 3, 0, 0⟩, ⟨203, 1, 0, 0⟩, ⟨227, 2, 0, 0⟩, ⟨227, 3, 0, 0⟩,
   ⟨228, 5, 0, 44⟩, ⟨228, 6, 0, 96⟩, ⟨228, 6, 0, 97⟩, ⟨228, 7, 0, 108⟩]

/-- Entries 16 to 31 of `reductions`. -/
def reductions1 : List Reduction :=
  [⟨162, 2, 0, 0⟩, ⟨162, 3, 0, 0⟩, ⟨127, 1, 0, 0⟩, ⟨125, 1, 0, 0⟩, ⟨206, 1, 0, 0⟩, ⟨206, 2, 0, 0⟩,
   ⟨185, 2, 0, 5⟩, ⟨122, 2, 0, 0⟩, ⟨119, 3, 0, 0⟩, ⟨119, 3, -1, 6⟩, ⟨144, 2, 0, 0⟩,
   ⟨122, 3, 0, 0⟩, ⟨119, 4, 0, 14⟩, ⟨119, 4, -1, 15⟩, ⟨144, 3, 0, 0⟩, ⟨206, 3, 0, 0⟩]

/-- Entries 32 to 47 of `reductions`. -/
def reductions2 : List Reduction :=
  [⟨206, 4, 0, 0⟩, ⟨139, 4, 0, 42⟩, ⟨139, 5, 0, 62⟩, ⟨124, 1, 0, 0⟩, ⟨179, 1, 0, 0⟩,
   ⟨189, 1, 0, 0⟩, ⟨131, 4, 0, 37⟩, ⟨131, 5, 0, 55⟩, ⟨131, 5, 0, 56⟩, ⟨251, 2, 0, 0⟩,
   ⟨252, 2, 0, 0⟩, ⟨131, 6, 0, 81⟩, ⟨189, 1, 0, 2⟩, ⟨180, 2, 0, 0⟩, ⟨218, 2, 0, 0⟩,
   ⟨184, 2, 0, 0⟩]

/-- Entries 48 to 63 of `reductions`. -/
def reductions3 : List Reduction :=
  [⟨181, 2, 0, 0⟩, ⟨216, 2, 0, 0⟩, ⟨204, 3, 0, 23⟩, ⟨205, 4, 0, 49⟩, ⟨205, 5, 0, 49⟩,
   ⟨205, 5, 0, 71⟩, ⟨247, 2, 0, 79⟩, ⟨205, 6, 0, 71⟩, ⟨210, 2, 0, 0⟩, ⟨110, 2, 0, 0⟩,
   ⟨110, 3, 0, 0⟩, ⟨110, 4, 0, 0⟩, ⟨140, 3, 0, 88⟩, ⟨140, 4, 0, 0⟩, ⟨140, 4, 0, 104⟩,
   ⟨141, 4, 0, 104⟩]

/-- Entries 64 to 79 of `reductions`. -/
def reductions4 : List Reduction :=
  [⟨140, 5, 0, 0⟩, ⟨141, 5, 0, 0⟩, ⟨140, 6, 0, 127⟩, ⟨141, 6, 0, 127⟩, ⟨140, 7, 0, 0⟩,
   ⟨141, 7, 0, 0⟩, ⟨161, 1, 0, 0⟩, ⟨161, 2, 0, 0⟩, ⟨138, 4, 0, 41⟩, ⟨247, 1, 0, 53⟩,
   ⟨138, 5, 0, 61⟩, ⟨139, 5, 0, 42⟩, ⟨137, 6, 0, 86⟩, ⟨139, 6, 0, 62⟩, ⟨137, 7, 0, 99⟩,
   ⟨137, 7, 0, 103⟩]

/-- Entries 80 to 95 of `reductions`. -/
def reductions5 : List Reduction :=
  [⟨132, 4, 0, 37⟩, ⟨137, 8, 0, 112⟩, ⟨132, 5, 0, 56⟩, ⟨133, 3, 0, 42⟩, ⟨133, 4, 0, 62⟩,
   ⟨159, 2, 0, 12⟩, ⟨177, 2, 0, 0⟩, ⟨177, 3, 0, 0⟩, ⟨134, 4, 0, 39⟩, ⟨143, 4, 0, 43⟩,
   ⟨155, 4, 0, 45⟩, ⟨131, 5, 0, 54⟩, ⟨134, 5, 0, 57⟩, ⟨135, 2, 0, 0⟩, ⟨134, 5, 0, 58⟩,
   ⟨143, 5, 0, 59⟩]

/-- Entries 96 to 111 of `reductions`. -/
def reductions6 : List Reduction :=
  [⟨138, 5, 0, 60⟩, ⟨143, 5, 0, 63⟩, ⟨146, 5, 0, 64⟩, ⟨155, 5, 0, 65⟩, ⟨155, 5, 0, 66⟩,
   ⟨155, 5, 0, 67⟩, ⟨131, 6, 0, 78⟩, ⟨131, 6, 0, 80⟩, ⟨135, 3, 0, 82⟩, ⟨134, 6, 0, 83⟩,
   ⟨143, 6, 0, 84⟩, ⟨146, 6, 0, 85⟩, ⟨138, 6, 0, 87⟩, ⟨142, 3, 0, 88⟩, ⟨139, 6, 0, 42⟩,
   ⟨146, 6, 0, 89⟩]

/-- Entries 112 to 127 of `reductions`. -/
def reductions7 : List Reduction :=
  [⟨146, 6, 0, 90⟩, ⟨155, 6, 0, 91⟩, ⟨155, 6, 0, 92⟩, ⟨155, 6, 0, 93⟩, ⟨131, 7, 0, 98⟩,
   ⟨146, 7, 0, 100⟩, ⟨146, 7, 0, 101⟩, ⟨137, 7, 0, 102⟩, ⟨142, 4, 0, 0⟩, ⟨139, 7, 0, 62⟩,
   ⟨146, 7, 0, 105⟩, ⟨146, 7, 0, 106⟩, ⟨155, 7, 0, 107⟩, ⟨137, 8, 0, 111⟩, ⟨146, 8, 0, 113⟩,
   ⟨146, 8, 0, 114⟩]

/-- Entries 128 to 143 of `reductions`. -/
def reductions8 : List Reduction :=
  [⟨137, 8, 0, 115⟩, ⟨146, 8, 0, 116⟩, ⟨146, 8, 0, 117⟩, ⟨137, 9, 0, 124⟩, ⟨146, 9, 0, 125⟩,
   ⟨146, 9, 0, 126⟩, ⟨146, 9, 0, 128⟩, ⟨146, 10, 0, 133⟩, ⟨240, 1, 0, 0⟩, ⟨188, 1, 0, 0⟩,
   ⟨231, 2, 0, 0⟩, ⟨269, 2, 0, 0⟩, ⟨193, 2, 0, 9⟩, ⟨238, 2, 0, 0⟩, ⟨192, 3, 0, 21⟩,
   ⟨263, 2, 0, 24⟩]

/-- Entries 144 to 159 of `reductions`. -/
def reductions9 : List Reduction :=
  [⟨232, 2, 0, 0⟩, ⟨232, 3, 0, 0⟩, ⟨219, 2, 0, 0⟩, ⟨207, 2, 0, 10⟩, ⟨226, 3, 0, 0⟩,
   ⟨218, 3, 0, 0⟩, ⟨216, 3, 0, 0⟩, ⟨219, 3, 0, 0⟩, ⟨217, 3, 0, 0⟩, ⟨158, 2, 0, 0⟩,
   ⟨224, 4, 0, 34⟩, ⟨221, 4, 0, 34⟩, ⟨219, 4, 0, 0⟩, ⟨223, 4, 0, 34⟩, ⟨222, 4, 0, 34⟩,
   ⟨158, 3, 0, 0⟩]

/-- Entries 160 to 175 of `reductions`. -/
def reductions10 : List Reduction :=
  [⟨158, 3, 0, 33⟩, ⟨219, 5, 0, 0⟩, ⟨158, 4, 0, 0⟩, ⟨158, 4, 0, 33⟩, ⟨158, 5, 0, 0⟩,
   ⟨158, 5, 0, 33⟩, ⟨196, 2, 0, 11⟩, ⟨263, 2, 0, 25⟩, ⟨194, 2, 0, 0⟩, ⟨195, 2, 0, 0⟩,
   ⟨185, 2, 0, 0⟩, ⟨262, 2, 0, 0⟩, ⟨180, 3, 0, 0⟩, ⟨181, 3, 0, 0⟩, ⟨202, 1, 0, 0⟩, ⟨176, 2, 0, 0⟩]

/-- Entries 176 to 191 of `reductions`. -/
def reductions11 : List Reduction :=
  [⟨176, 3, 0, 0⟩, ⟨209, 1, 0, 0⟩, ⟨227, 1, 0, 0⟩, ⟨190, 2, 0, 6⟩, ⟨197, 3, 0, 17⟩,
   ⟨123, 3, 0, 18⟩, ⟨186, 3, 0, 22⟩, ⟨191, 3, 0, 21⟩, ⟨197, 4, 0, 48⟩, ⟨230, 5, 0, 0⟩,
   ⟨270, 2, 0, 0⟩, ⟨145, 1, 1, 7⟩, ⟨122, 1, 0, 0⟩, ⟨235, 1, 0, 0⟩, ⟨203, 2, 0, 0⟩, ⟨127, 2, 0, 0⟩]

/-- Entries 192 to 207 of `reductions`. -/
def reductions12 : List Reduction :=
  [⟨163, 1, 0, 0⟩, ⟨163, 2, 0, 0⟩, ⟨246, 2, 0, 0⟩, ⟨258, 2, 0, 0⟩, ⟨203, 3, 0, 0⟩, ⟨233, 1, 0, 0⟩,
   ⟨119, 2, -1, 6⟩, ⟨121, 2, 0, 0⟩, ⟨125, 2, 0, 0⟩, ⟨126, 2, 0, 0⟩, ⟨271, 2, 0, 0⟩,
   ⟨153, 4, 0, 8⟩, ⟨220, 3, 0, 46⟩, ⟨187, 1, 0, 0⟩, ⟨165, 1, 0, 0⟩, ⟨225, 1, 0, 0⟩]

/-- Entries 208 to 223 of `reductions`. -/
def reductions13 : List Reduction :=
  [⟨120, 2, 0, 0⟩, ⟨225, 2, 0, 0⟩, ⟨245, 2, 0, 6⟩, ⟨229, 2, 0, 0⟩, ⟨266, 2, 0, 0⟩,
   ⟨264, 2, 0, 70⟩, ⟨165, 2, 0, 0⟩, ⟨257, 2, 0, 0⟩, ⟨149, 2, 0, 0⟩, ⟨127, 3, 0, 16⟩,
   ⟨150, 2, 0, 0⟩, ⟨199, 3, 0, 19⟩, ⟨234, 3, 0, 26⟩, ⟨267, 2, 0, 0⟩, ⟨127, 4, 0, 36⟩,
   ⟨248, 2, 0, 38⟩]

/-- Entries 224 to 239 of `reductions`. -/
def reductions14 : List Reduction :=
  [⟨182, 3, 0, 18⟩, ⟨234, 4, 0, 26⟩, ⟨234, 4, 0, 51⟩, ⟨234, 4, 0, 52⟩, ⟨156, 3, 0, 0⟩,
   ⟨215, 3, 0, 69⟩, ⟨215, 3, 0, 18⟩, ⟨256, 2, 0, 0⟩, ⟨234, 5, 0, 73⟩, ⟨234, 5, 0, 74⟩,
   ⟨234, 5, 0, 75⟩, ⟨228, 4, 0, 44⟩, ⟨164, 1, 0, 0⟩, ⟨156, 4, 0, 0⟩, ⟨183, 5, 0, 94⟩,
   ⟨234, 6, 0, 95⟩]

/-- Entries 240 to 255 of `reductions`. -/
def reductions15 : List Reduction :=
  [⟨228, 5, 0, 96⟩, ⟨228, 5, 0, 97⟩, ⟨167, 2, 0, 0⟩, ⟨156, 5, 0, 0⟩, ⟨206, 5, 0, 0⟩,
   ⟨228, 6, 0, 108⟩, ⟨268, 2, 0, 0⟩, ⟨172, 3, 0, 0⟩, ⟨259, 2, 0, 0⟩, ⟨211, 2, 0, 1⟩,
   ⟨211, 2, 0, 0⟩, ⟨214, 3, 0, 0⟩, ⟨213, 3, 0, 0⟩, ⟨212, 3, 0, 0⟩, ⟨208, 3, 0, 47⟩,
   ⟨116, 1, 0, 4⟩]

/-- Entries 256 to 271 of `reductions`. -/
def reductions16 : List Reduction :=
  [⟨116, 2, 0, 4⟩, ⟨237, 1, 0, 0⟩, ⟨116, 3, 0, 13⟩, ⟨154, 4, 1, 44⟩, ⟨237, 2, 0, 0⟩,
   ⟨272, 2, 0, 0⟩, ⟨255, 2, 0, 0⟩, ⟨169, 2, 0, 0⟩, ⟨173, 2, 0, 0⟩, ⟨168, 2, 0, 0⟩, ⟨170, 2, 0, 0⟩,
   ⟨198, 3, 0, 17⟩, ⟨169, 3, 0, 0⟩, ⟨168, 3, 0, 0⟩, ⟨170, 3, 0, 109⟩, ⟨170, 3, 0, 0⟩]

/-- Entries 272 to 287 of `reductions`. -/
def reductions17 : List Reduction :=
  [⟨175, 3, 0, 0⟩, ⟨174, 3, 0, 0⟩, ⟨198, 4, 0, 48⟩, ⟨169, 4, 0, 0⟩, ⟨168, 4, 0, 0⟩,
   ⟨175, 4, 0, 0⟩, ⟨170, 4, 0, 109⟩, ⟨170, 4, 0, 118⟩, ⟨170, 4, 0, 0⟩, ⟨170, 4, 0, 120⟩,
   ⟨174, 4, 0, 0⟩, ⟨169, 5, 0, 0⟩, ⟨168, 5, 0, 0⟩, ⟨170, 5, 0, 118⟩, ⟨170, 5, 0, 120⟩,
   ⟨174, 5, 0, 0⟩]

/-- Entries 288 to 303 of `reductions`. -/
def reductions18 : List Reduction :=
  [⟨174, 6, 0, 0⟩, ⟨112, 1, 0, 0⟩, ⟨119, 2, 0, 0⟩, ⟨151, 2, 0, 0⟩, ⟨152, 2, 0, 0⟩,
   ⟨116, 2, 0, 13⟩, ⟨243, 2, 0, 0⟩, ⟨119, 3, 0, 14⟩, ⟨119, 3, -1, 15⟩, ⟨121, 3, 0, 0⟩,
   ⟨151, 3, 0, 0⟩, ⟨152, 3, 0, 0⟩, ⟨160, 3, 0, 0⟩, ⟨244, 2, 0, 27⟩, ⟨244, 2, 0, 28⟩,
   ⟨245, 2, 0, 35⟩]

/-- Entries 304 to 319 of `reductions`. -/
def reductions19 : List Reduction :=
  [⟨254, 2, 0, 0⟩, ⟨153, 5, 0, 8⟩, ⟨249, 2, 0, 79⟩, ⟨250, 2, 0, 0⟩, ⟨166, 3, 0, 0⟩,
   ⟨260, 2, 0, 0⟩, ⟨178, 1, 0, 0⟩, ⟨113, 1, 0, 0⟩, ⟨177, 1, 0, 0⟩, ⟨144, 1, 0, 0⟩, ⟨153, 2, 0, 8⟩,
   ⟨176, 1, 0, 0⟩, ⟨242, 2, 0, 0⟩, ⟨117, 3, 0, 29⟩, ⟨248, 2, 0, 40⟩, ⟨253, 2, 0, 0⟩]

/-- Entries 320 to 335 of `reductions`. -/
def reductions20 : List Reduction :=
  [⟨265, 2, 0, 0⟩, ⟨261, 2, 0, 0⟩, ⟨272, 1, 0, 50⟩, ⟨264, 2, 0, 72⟩, ⟨171, 3, 0, 46⟩,
   ⟨260, 2, 0, 119⟩, ⟨128, 1, 0, 0⟩, ⟨129, 1, 0, 0⟩, ⟨130, 1, 0, 0⟩, ⟨111, 2, 0, 3⟩,
   ⟨239, 1, 0, 0⟩, ⟨199, 3, 0, 20⟩, ⟨200, 3, 0, 21⟩, ⟨114, 4, 0, 30⟩, ⟨118, 1, 0, 0⟩,
   ⟨115, 4, 0, 31⟩]

/-- Entries 336 to 351 of `reductions`. -/
def reductions21 : List Reduction :=
  [⟨115, 4, 0, 32⟩, ⟨157, 3, 0, 0⟩, ⟨157, 3, 0, 33⟩, ⟨147, 2, 0, 0⟩, ⟨249, 1, 0, 53⟩,
   ⟨147, 3, 0, 0⟩, ⟨199, 5, 0, 68⟩, ⟨256, 2, 0, 33⟩, ⟨114, 6, 0, 76⟩, ⟨115, 6, 0, 77⟩,
   ⟨136, 4, 0, 110⟩, ⟨260, 2, 0, 109⟩, ⟨136, 5, 0, 121⟩, ⟨136, 5, 0, 122⟩, ⟨136, 5, 0, 123⟩,
   ⟨136, 6, 0, 129⟩]

/-- Entries 352 to 362 of `reductions`. -/
def reductions22 : List Reduction :=
  [⟨136, 6, 0, 130⟩, ⟨136, 6, 0, 131⟩, ⟨136, 6, 0, 132⟩, ⟨136, 7, 0, 134⟩, ⟨136, 7, 0, 135⟩,
   ⟨136, 7, 0, 136⟩, ⟨136, 8, 0, 137⟩, ⟨148, 1, 0, 0⟩, ⟨113, 2, 0, 0⟩, ⟨144, 4, 0, 0⟩,
   ⟨144, 5, 0, 0⟩]

/-- All reductions, sixteen to a shelf. -/
def reductions : List (List Reduction) :=
  [reductions0, reductions1, reductions2, reductions3, reductions4, reductions5, reductions6,
   reductions7, reductions8, reductions9, reductions10, reductions11, reductions12, reductions13,
   reductions14, reductions15, reductions16, reductions17, reductions18, reductions19,
   reductions20, reductions21, reductions22]

/-- Entries 0 to 15 of `shapes`. -/
def shapes0 : List Shape :=
  [⟨[], []⟩, ⟨[(0, .identifier, true)], []⟩, ⟨[(0, .other "list_splat", true)], []⟩, ⟨[], []⟩,
   ⟨[], [(0, .name)]⟩, ⟨[(1, .identifier, true)], []⟩, ⟨[], []⟩, ⟨[], [(0, .value)]⟩, ⟨[], []⟩,
   ⟨[], []⟩, ⟨[], [(0, .function), (1, .arguments)]⟩, ⟨[], []⟩, ⟨[], []⟩, ⟨[], [(0, .name)]⟩,
   ⟨[], []⟩, ⟨[], []⟩]

/-- Entries 16 to 31 of `shapes`. -/
def shapes1 : List Shape :=
  [⟨[], []⟩, ⟨[], [(2, .body)]⟩, ⟨[], [(0, .name), (2, .value)]⟩, ⟨[], []⟩, ⟨[], []⟩, ⟨[], []⟩,
   ⟨[(2, .other "as_pattern_target", true)], []⟩, ⟨[], [(0, .object), (2, .attribute)]⟩, ⟨[], []⟩,
   ⟨[], []⟩, ⟨[], []⟩, ⟨[], [(1, .name)]⟩, ⟨[], []⟩, ⟨[], [(0, .name)]⟩, ⟨[], []⟩, ⟨[], []⟩]

/-- Entries 32 to 47 of `shapes`. -/
def shapes2 : List Shape :=
  [⟨[], []⟩, ⟨[(1, .parenthesizedExpression, true)], []⟩, ⟨[], [(1, .body)]⟩, ⟨[], []⟩, ⟨[], []⟩,
   ⟨[(3, .block, true)], []⟩, ⟨[], []⟩, ⟨[], [(3, .body)]⟩, ⟨[], []⟩,
   ⟨[(3, .block, true)], [(3, .body)]⟩, ⟨[(2, .block, true)], [(2, .body)]⟩,
   ⟨[(3, .block, true)], [(3, .body)]⟩, ⟨[], []⟩, ⟨[(3, .block, true)], [(1, .name), (3, .body)]⟩,
   ⟨[], [(2, .value)]⟩, ⟨[], []⟩]

/-- Entries 48 to 63 of `shapes`. -/
def shapes3 : List Shape :=
  [⟨[], [(3, .body)]⟩, ⟨[], [(0, .value)]⟩, ⟨[(0, .other "format_expression", true)], []⟩,
   ⟨[], []⟩, ⟨[], []⟩, ⟨[], []⟩, ⟨[(3, .block, true)], []⟩, ⟨[(3, .block, true)], []⟩, ⟨[], []⟩,
   ⟨[], [(4, .body)]⟩, ⟨[], [(4, .body)]⟩, ⟨[(4, .block, true)], [(4, .body)]⟩,
   ⟨[(3, .block, true)], [(3, .body)]⟩, ⟨[], [(3, .body), (4, .body)]⟩,
   ⟨[], [(2, .body), (3, .body)]⟩, ⟨[], [(3, .body), (4, .body)]⟩]

/-- Entries 64 to 79 of `shapes`. -/
def shapes4 : List Shape :=
  [⟨[(4, .block, true)], [(1, .name), (4, .body)]⟩, ⟨[], [(1, .name), (3, .body), (4, .body)]⟩,
   ⟨[(4, .block, true)], [(1, .name), (4, .body)]⟩,
   ⟨[(4, .block, true)], [(1, .name), (4, .body)]⟩, ⟨[], []⟩,
   ⟨[(0, .identifier, true)], [(0, .name), (2, .value)]⟩, ⟨[], []⟩, ⟨[], [(0, .value)]⟩, ⟨[], []⟩,
   ⟨[], []⟩, ⟨[], []⟩, ⟨[], []⟩, ⟨[], []⟩, ⟨[], []⟩, ⟨[(3, .block, true)], []⟩, ⟨[], []⟩]

/-- Entries 80 to 95 of `shapes`. -/
def shapes5 : List Shape :=
  [⟨[], []⟩, ⟨[], []⟩, ⟨[], []⟩, ⟨[], [(5, .body)]⟩, ⟨[], [(4, .body), (5, .body)]⟩,
   ⟨[(5, .block, true)], [(2, .name), (5, .body)]⟩, ⟨[(5, .block, true)], [(5, .body)]⟩,
   ⟨[], [(3, .body), (4, .body)]⟩, ⟨[(2, .block, true)], []⟩,
   ⟨[], [(1, .name), (4, .body), (5, .body)]⟩, ⟨[(5, .block, true)], [(1, .name), (5, .body)]⟩,
   ⟨[], [(1, .name), (4, .body), (5, .body)]⟩, ⟨[(5, .block, true)], [(1, .name), (5, .body)]⟩,
   ⟨[], [(1, .name), (4, .body), (5, .body)]⟩, ⟨[], [(0, .name), (4, .value)]⟩, ⟨[], []⟩]

/-- Entries 96 to 111 of `shapes`. -/
def shapes6 : List Shape :=
  [⟨[], []⟩, ⟨[], []⟩, ⟨[], []⟩, ⟨[(6, .block, true)], [(6, .body)]⟩,
   ⟨[], [(2, .name), (5, .body), (6, .body)]⟩, ⟨[(6, .block, true)], [(2, .name), (6, .body)]⟩,
   ⟨[(5, .block, true)], [(5, .body)]⟩, ⟨[], [(5, .body), (6, .body)]⟩, ⟨[(3, .block, true)], []⟩,
   ⟨[(6, .block, true)], [(1, .name), (6, .body)]⟩, ⟨[], [(1, .name), (5, .body), (6, .body)]⟩,
   ⟨[], [(1, .name), (5, .body), (6, .body)]⟩, ⟨[], []⟩, ⟨[], []⟩, ⟨[(3, .block, true)], []⟩,
   ⟨[(6, .block, true)], [(6, .body)]⟩]

/-- Entries 112 to 127 of `shapes`. -/
def shapes7 : List Shape :=
  [⟨[], [(6, .body), (7, .body)]⟩, ⟨[(7, .block, true)], [(2, .name), (7, .body)]⟩,
   ⟨[], [(2, .name), (6, .body), (7, .body)]⟩, ⟨[], [(5, .body), (6, .body)]⟩,
   ⟨[], [(1, .name), (6, .body), (7, .body)]⟩, ⟨[(7, .block, true)], [(1, .name), (7, .body)]⟩,
   ⟨[], []⟩, ⟨[], []⟩, ⟨[], []⟩, ⟨[(4, .block, true)], []⟩, ⟨[], []⟩, ⟨[(4, .block, true)], []⟩,
   ⟨[], [(6, .body), (7, .body)]⟩, ⟨[], [(2, .name), (7, .body), (8, .body)]⟩,
   ⟨[(8, .block, true)], [(2, .name), (8, .body)]⟩, ⟨[(5, .block, true)], []⟩]

/-- Entries 128 to 137 of `shapes`. -/
def shapes8 : List Shape :=
  [⟨[], [(1, .name), (7, .body), (8, .body)]⟩, ⟨[], []⟩, ⟨[(5, .block, true)], []⟩, ⟨[], []⟩,
   ⟨[(5, .block, true)], []⟩, ⟨[], [(2, .name), (8, .body), (9, .body)]⟩, ⟨[], []⟩, ⟨[], []⟩,
   ⟨[(6, .block, true)], []⟩, ⟨[], []⟩]

/-- All shapes, sixteen to a shelf. -/
def shapes : List (List Shape) :=
  [shapes0, shapes1, shapes2, shapes3, shapes4, shapes5, shapes6, shapes7, shapes8]

end CellScript.Python.Grammar
