import CellScript.Proofs.Python.Pieces

set_option autoImplicit false

/-! # What trees show of fragments

`Fragment.ShownBy` says where a fragment stands and which nodes a tree shows it by, in whatever role
it has. There is a lemma for a token and one for a phrase, by what its parts show. -/

namespace CellScript.Python

open Grammar

/-- The nodes that show something, by the role that it has. -/
abbrev Nodes := Option Role → List Tree

/-- Nothing is shown. -/
def Nodes.nothing : Nodes := fun _ => []

/-- One undamaged node is shown. -/
def Nodes.one (kind : Kind) (named : Bool) (start stop : Position) (children : List Tree) : Nodes :=
  fun role => [.node ⟨kind, named, role, start, stop, false, false⟩ children]

/-- An undamaged fragment stands between two places, and a tree shows it by some nodes. -/
structure Fragment.ShownBy (f : Fragment) (start stop : Position) (ts : Nodes) : Prop where
  sound : f.Sound
  start : f.reading.start = start
  stop : f.reading.stop = stop
  nodes : ∀ role, f.nodes ⟨none, role⟩ = ts role

/-- What is shown of the parts of a phrase that gives no part another name: each part in its own
role, or in that of the phrase. -/
def Nodes.ofParts (roles : List (Nat × Role)) (role : Option Role) : Nat → List Nodes → List Tree
  | _, [] => []
  | place, ts :: tss => ts (roles.lookup place <|> role) ++ ofParts roles role (place + 1) tss

namespace Fragment

variable {f : Fragment} {fs : List Fragment} {symbol shape place : Nat} {weight : Int}
  {start stop middle at_ : Position} {keyword changes : Bool} {l : Layout} {ts : Nodes}
  {tss : List Nodes}

theorem shownBy_token (hvisible : isVisible symbol = true) (hsymbol : symbol ≠ endOfText) :
    (token symbol start stop keyword).ShownBy start stop
      (.one (kindOf symbol) (isNamed symbol) start stop []) := by
  refine ⟨sound_token hsymbol, rfl, rfl, fun role => ?_⟩
  simp [token, nodes, hvisible, nodesOf, Nodes.one]

theorem shownBy_layoutToken (hvisible : isVisible symbol = true) :
    (layoutToken symbol start stop l changes).ShownBy start stop
      (.one (kindOf symbol) (isNamed symbol) start stop []) := by
  refine ⟨sound_layoutToken, rfl, rfl, fun role => ?_⟩
  simp [layoutToken, nodes, hvisible, nodesOf, Nodes.one]

theorem shownBy_hiddenToken (hvisible : isVisible symbol = false) :
    (layoutToken symbol start stop l changes).ShownBy start stop .nothing := by
  refine ⟨sound_layoutToken, rfl, rfl, fun role => ?_⟩
  simp [layoutToken, nodes, hvisible, nodesOf, Nodes.nothing]

/-- Some fragments show some nodes each. -/
def ShownAll (fs : List Fragment) (tss : List Nodes) : Prop :=
  List.Forall₂ (fun f ts => f.Sound ∧ ∀ role, f.nodes ⟨none, role⟩ = ts role) fs tss

theorem ShownAll.nil : ShownAll [] [] := List.Forall₂.nil

theorem ShownAll.cons (h : f.ShownBy start stop ts) (hs : ShownAll fs tss) :
    ShownAll (f :: fs) (ts :: tss) :=
  List.Forall₂.cons ⟨h.sound, h.nodes⟩ hs

theorem ShownAll.sound (hs : ShownAll fs tss) : ∀ f ∈ fs, f.Sound := by
  induction hs with
  | nil => simp
  | cons h _ ih => exact List.forall_mem_cons.2 ⟨h.1, ih⟩

theorem nodesOf_eq {s : Shape} {role : Option Role} (haliases : s.aliases = [])
    (h : ShownAll fs tss) : nodesOf s place role fs = Nodes.ofParts s.roles role place tss := by
  induction h generalizing place with
  | nil => rw [nodesOf, Nodes.ofParts]
  | @cons f ts fs tss hf _ ih =>
      obtain ⟨hsound, hnodes⟩ := hf
      have hextra : f.reading.extra = false := hsound.part
      rw [nodesOf, hextra, if_neg Bool.false_ne_true, haliases, Nodes.ofParts, ih]
      simp [hnodes]

/-- The places and the soundness of a phrase, by its first part and its last. -/
theorem phrase_places (shape : Nat) (weight : Int) (at_ : Position) (hsymbol : symbol < errorPiece)
    (hs : ∀ g ∈ f :: fs, g.Sound) (hstart : f.reading.start = start)
    (hstop : ((f :: fs).getLast (List.cons_ne_nil f fs)).reading.stop = stop) :
    (phrase symbol shape weight false at_ (f :: fs)).Sound ∧
      (phrase symbol shape weight false at_ (f :: fs)).reading.start = start ∧
      (phrase symbol shape weight false at_ (f :: fs)).reading.stop = stop := by
  have herror : symbol ≠ error := Nat.ne_of_lt (Nat.lt_succ_of_lt hsymbol)
  refine ⟨sound_phrase herror (Nat.ne_of_lt hsymbol) hs, hstart, ?_⟩
  rw [← hstop]
  simp [phrase, reading, List.getLast?_eq_some_getLast]

/-- A phrase that a tree shows as a node. -/
theorem shownBy_node (hvisible : isVisible symbol = true) (hsymbol : symbol < errorPiece)
    (haliases : (shapeAt shape).aliases = []) (hs : ShownAll (f :: fs) tss)
    (hstart : f.reading.start = start)
    (hstop : ((f :: fs).getLast (List.cons_ne_nil f fs)).reading.stop = stop) :
    (phrase symbol shape weight false at_ (f :: fs)).ShownBy start stop
      (.one (kindOf symbol) (isNamed symbol) start stop
        (Nodes.ofParts (shapeAt shape).roles none 0 tss)) := by
  obtain ⟨hsound, hfirst, hlast⟩ := phrase_places shape weight at_ hsymbol hs.sound hstart hstop
  refine ⟨hsound, hfirst, hlast, fun role => ?_⟩
  obtain ⟨r, hr, rfl, rfl, hmissing⟩ : ∃ r,
      phrase symbol shape weight false at_ (f :: fs) = mk r (f :: fs) ∧ r.symbol = symbol ∧
        r.shape = shape ∧ r.missing = false := ⟨_, rfl, rfl, rfl, rfl⟩
  rw [hr] at hsound hfirst hlast ⊢
  have hcost : r.cost = 0 := hsound.free
  rw [nodes, if_pos hvisible]
  simp only [reading] at hfirst hlast
  simp [Nodes.one, nodesOf_eq haliases hs, hfirst, hlast, hcost, hmissing]

/-- A phrase that gives way to its parts in a tree. -/
theorem shownBy_hidden (hvisible : isVisible symbol = false) (hsymbol : symbol < errorPiece)
    (haliases : (shapeAt shape).aliases = []) (hs : ShownAll (f :: fs) tss)
    (hstart : f.reading.start = start)
    (hstop : ((f :: fs).getLast (List.cons_ne_nil f fs)).reading.stop = stop) :
    (phrase symbol shape weight false at_ (f :: fs)).ShownBy start stop
      fun role => Nodes.ofParts (shapeAt shape).roles role 0 tss := by
  obtain ⟨hsound, hfirst, hlast⟩ := phrase_places shape weight at_ hsymbol hs.sound hstart hstop
  refine ⟨hsound, hfirst, hlast, fun role => ?_⟩
  obtain ⟨r, hr, rfl, rfl⟩ : ∃ r,
      phrase symbol shape weight false at_ (f :: fs) = mk r (f :: fs) ∧ r.symbol = symbol ∧
        r.shape = shape := ⟨_, rfl, rfl, rfl⟩
  rw [hr, nodes, if_neg (by simp [hvisible])]
  exact nodesOf_eq haliases hs

/-- A phrase that gives way to its only part. -/
theorem shownBy_alone (hvisible : isVisible symbol = false) (hsymbol : symbol < errorPiece)
    (hshape : (shapeAt shape).aliases = [] ∧ (shapeAt shape).roles = [])
    (h : f.ShownBy start stop ts) :
    (phrase symbol shape weight false at_ [f]).ShownBy start stop ts := by
  have hphrase : (phrase symbol shape weight false at_ [f]).ShownBy start stop _ :=
    shownBy_hidden hvisible hsymbol hshape.1 (.cons h .nil) h.start h.stop
  refine ⟨hphrase.sound, hphrase.start, hphrase.stop, fun role => ?_⟩
  rw [hphrase.nodes, hshape.2]
  exact List.append_nil _

/-- A phrase that gives way to a token, which it gives another name. -/
theorem shownBy_renamed {token' : Nat} {kind : Kind} {named : Bool}
    (hvisible : isVisible symbol = false) (hsymbol : symbol < errorPiece)
    (hroles : (shapeAt shape).roles = []) (haliases : (shapeAt shape).aliases = [(0, kind, named)])
    (htoken : token' ≠ endOfText) :
    (phrase symbol shape weight false at_ [token token' start stop keyword]).ShownBy start stop
      (.one kind named start stop []) := by
  obtain ⟨hsound, hfirst, hlast⟩ := phrase_places shape weight at_ hsymbol
    (show ∀ g ∈ [token token' start stop keyword], g.Sound by simp [sound_token htoken]) rfl rfl
  refine ⟨hsound, hfirst, hlast, fun role => ?_⟩
  obtain ⟨r, hr, rfl, rfl⟩ : ∃ r,
      phrase symbol shape weight false at_ [token token' start stop keyword] =
        mk r [token token' start stop keyword] ∧ r.symbol = symbol ∧ r.shape = shape :=
    ⟨_, rfl, rfl, rfl⟩
  have hpart : (token token' start stop keyword).reading.extra = false := (sound_token htoken).part
  rw [hr, nodes, if_neg (by simp [hvisible])]
  simp only [nodesOf, hpart, hroles, haliases]
  simp [nodes, token, nodesOf, Nodes.one]

end Fragment

end CellScript.Python
