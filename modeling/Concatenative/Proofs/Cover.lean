import Concatenative.Grammar.Loose
import Concatenative.Proofs.Derivation
import Concatenative.Proofs.Position

/-!
# How a parse tree lies in its text

A parse tree loses nothing of its text but blanks. The nodes of a program, or between two brackets,
lie in the text one after the other, each with its own text and at its own position, and before,
between and after them there are only blanks. So the text can be put together again from the tree and
the blanks, and every node, at whatever depth, is found in the text at its position.

A quotation is read in the same way wherever it stands. Its text by itself is a program with this
quotation as its only node, with positions that count from the beginning of that text.
-/

namespace Concatenative.Grammar

open Concatenative.Text

/-! ## Nodes -/

namespace Node

/-- The text of a node. -/
def text : Node → List Char
  | .word text _ => text
  | .number text _ => text
  | .quoted text _ _ => text

/-- The position of a node. -/
def position : Node → Position
  | .word _ p => p
  | .number _ p => p
  | .quoted _ p _ => p

/-- The nodes inside a node. -/
def children : Node → List Node
  | .word _ _ => []
  | .number _ _ => []
  | .quoted _ _ children => children

/-- The node is one of the nodes, or inside one of them at some depth. -/
inductive Below (n : Node) : List Node → Prop where
  | here {ns : List Node} (h : n ∈ ns) : Below n ns
  | inside {m : Node} {ns : List Node} (hm : m ∈ ns) (h : Below n m.children) : Below n ns

end Node

mutual

/-- The node of a text that starts at `origin`, given the node with the positions of the text by
itself. -/
def Node.shift (origin : Position) : Node → Node
  | .word text p => .word text (origin.shift p)
  | .number text p => .number text (origin.shift p)
  | .quoted text p children => .quoted text (origin.shift p) (Node.shifts origin children)

/-- The same, for several nodes. -/
def Node.shifts (origin : Position) : List Node → List Node
  | [] => []
  | n :: ns => n.shift origin :: Node.shifts origin ns

end

/-- The nodes lie in the text, which starts at a position, one after the other, each at its position.
Before, between and after them there are only blanks. -/
inductive Tiles : Position → List Char → List Node → Prop where
  /-- There is nothing but blanks. -/
  | blank {p : Position} {blanks : List Char} (h : ∀ c ∈ blanks, isBlank c = true) :
      Tiles p blanks []
  /-- After blanks there is a node, and the others lie in what follows it. -/
  | node {p : Position} {blanks rest : List Char} {n : Node} {ns : List Node}
      (h : ∀ c ∈ blanks, isBlank c = true) (hn : n.position = p.after blanks)
      (hrest : Tiles (n.position.after n.text) rest ns) :
      Tiles p (blanks ++ (n.text ++ rest)) (n :: ns)

/-! ## The nodes of phrases -/

@[simp]
theorem Phrase.text_node (phrase : Phrase) (p : Position) : (phrase.node p).text = phrase.text := by
  cases phrase with
  | word spelling => rfl
  | number spelling => rfl
  | quoted body => rfl

@[simp]
theorem Phrase.position_node (phrase : Phrase) (p : Position) : (phrase.node p).position = p := by
  cases phrase with
  | word spelling => rfl
  | number spelling => rfl
  | quoted body => rfl

theorem Body.Valid.tiles {body : Body} (h : body.Valid) (p : Position) :
    Tiles p body.text (body.nodes p) := by
  cases body with
  | close blanks => exact .blank h
  | item blanks first rest =>
    obtain ⟨hblanks, -, hrest⟩ := h
    have hothers := Body.Valid.tiles hrest ((p.after blanks).after first.text)
    have htiles : Tiles p (blanks ++ ((first.node (p.after blanks)).text ++ rest.text))
        (first.node (p.after blanks) :: rest.nodes ((p.after blanks).after first.text)) := by
      refine .node hblanks (first.position_node _) ?_
      rwa [first.position_node, first.text_node]
    rwa [first.text_node] at htiles

mutual

/-- Positions count on from the place where the text starts. -/
theorem Phrase.node_after (phrase : Phrase) (origin : Position) (cs : List Char) :
    phrase.node (origin.after cs) = (phrase.node (Position.start.after cs)).shift origin := by
  cases phrase with
  | word spelling => rw [Phrase.node, Phrase.node, Node.shift, Position.after_eq_shift]
  | number spelling => rw [Phrase.node, Phrase.node, Node.shift, Position.after_eq_shift]
  | quoted body =>
    have hbody := body.nodes_after origin (cs ++ ['['])
    rw [Position.after_concat, Position.after_concat] at hbody
    rw [Phrase.node, Phrase.node, Node.shift, hbody, Position.after_eq_shift]

/-- The same, for bodies. -/
theorem Body.nodes_after (body : Body) (origin : Position) (cs : List Char) :
    body.nodes (origin.after cs) = Node.shifts origin (body.nodes (Position.start.after cs)) := by
  cases body with
  | close blanks => rfl
  | item blanks first rest =>
    have hfirst := first.node_after origin (cs ++ blanks)
    have hrest := rest.nodes_after origin (cs ++ blanks ++ first.text)
    simp only [Position.after_append] at hfirst hrest
    rw [Body.nodes, Body.nodes, Node.shifts, hfirst, hrest]

end

/-! ## Where a node stands -/

/-- The node is that of a phrase which stands in the text, and is read there. The text starts at a
position, and `next` follows it. -/
def Node.StandsIn (n : Node) (p : Position) (text next : List Char) : Prop :=
  ∃ (before : List Char) (phrase : Phrase) (after : List Char),
    text = before ++ (phrase.text ++ after) ∧ n = phrase.node (p.after before) ∧
      phrase.Valid ∧ phrase.Maximal (after ++ next)

theorem Node.StandsIn.append {n : Node} {p : Position} {before text after next : List Char}
    (h : n.StandsIn (p.after before) text (after ++ next)) :
    n.StandsIn p (before ++ (text ++ after)) next := by
  obtain ⟨start, phrase, rest, rfl, rfl, hvalid, hmax⟩ := h
  refine ⟨before ++ start, phrase, rest ++ after, ?_, ?_, hvalid, ?_⟩
  · simp only [List.append_assoc]
  · rw [Position.after_append]
  · rwa [List.append_assoc]

theorem Body.standsIn_of_mem {body : Body} {p : Position} {next : List Char} {n : Node}
    (hvalid : body.Valid) (hmax : body.Maximal next) (hn : n ∈ body.nodes p) :
    n.StandsIn p body.text next := by
  cases body with
  | close blanks => cases hn
  | item blanks first rest =>
    obtain ⟨-, hfirst, hrest⟩ := hvalid
    obtain ⟨hmaxFirst, hmaxRest⟩ := hmax
    rcases List.mem_cons.mp hn with rfl | hn
    · exact ⟨blanks, first, rest.text, rfl, rfl, hfirst, hmaxFirst⟩
    · rw [← Position.after_append] at hn
      have hstands := Body.standsIn_of_mem hrest hmaxRest hn
      have happend : n.StandsIn p (blanks ++ first.text ++ (rest.text ++ [])) next :=
        Node.StandsIn.append hstands
      rwa [List.append_nil, List.append_assoc] at happend

/-- A node at any depth stands in the text. -/
theorem Body.standsIn_of_below {n : Node} {ns : List Node} (h : n.Below ns) {body : Body}
    {p : Position} {next : List Char} (hvalid : body.Valid) (hmax : body.Maximal next)
    (hns : ns = body.nodes p) : n.StandsIn p body.text next := by
  induction h generalizing body p next with
  | here hn =>
    subst hns
    exact Body.standsIn_of_mem hvalid hmax hn
  | inside hm hbelow ih =>
    subst hns
    obtain ⟨before, phrase, after, htext, rfl, hphrase, hmaxPhrase⟩ :=
      Body.standsIn_of_mem hvalid hmax hm
    cases phrase with
    | word spelling => exact absurd hbelow nofun
    | number spelling => exact absurd hbelow nofun
    | quoted inner =>
      -- what stands between the brackets stands in the whole text
      have hinner : inner.Maximal ((']' :: after) ++ next) := hmaxPhrase
      have hstands := ih hphrase hinner (p := (p.after before).next '[') rfl
      rw [← Position.after_concat] at hstands
      have happend := hstands.append
      rw [htext]
      simpa [Phrase.text] using happend

/-- A quotation by itself is read as it is read where it stands. -/
theorem tree_quotation {body : Body} {next : List Char} (hvalid : body.Valid)
    (hmax : body.Maximal (']' :: next)) :
    tree (String.ofList (Phrase.quoted body).text) =
      .ok ⟨(Phrase.quoted body).text, [(Phrase.quoted body).node .start]⟩ := by
  have hread : readProgram (Phrase.quoted body).text =
      .ok (.item [] (.quoted body) (.close [])) := by
    refine readProgram_eq_ok_iff_maximal.mpr
      ⟨⟨⟨by simp, hvalid, by simp [Body.Valid]⟩, ?_⟩, ?_, trivial⟩
    · simp [Body.text]
    · exact Body.Maximal.imp hmax id id
  rw [tree_eq_ok_iff, String.toList_ofList]
  exact ⟨_, hread, by simp [Body.tree, Body.text, Body.nodes, Position.after]⟩

/-- A parse tree covers its text, with everything at its place. The text of the program is the whole
source, from the first line and column on, and its nodes lie in it in order, with only blanks before,
between and after them. The text of every node, at any depth, is what stands in the source at the
position of the node, and that position belongs to no other place. Between the outer brackets of a
quotation the nodes inside it lie in the same way. And the text of a quotation is by itself a program
whose only node is that quotation, up to the place where its positions count from. -/
theorem tree_covers_source {source : String} {t : Tree} (h : tree source = .ok t) :
    t.text = source.toList ∧
    (∃ fields, t.record = .record (nodeFields "program" source.toList ⟨1, 1⟩ ++ fields)) ∧
    Tiles ⟨1, 1⟩ source.toList t.children ∧
    ∀ n : Node, n.Below t.children →
      (∃ before after, source.toList = before ++ (n.text ++ after) ∧ n.position.Follows before ∧
        ∀ other rest, source.toList = other ++ rest → n.position.Follows other → other = before) ∧
      ∀ text p children, n = .quoted text p children →
        (∃ inner, text = '[' :: (inner ++ [']']) ∧ Tiles (p.next '[') inner children) ∧
        ∃ m, tree (String.ofList text) = .ok ⟨text, [m]⟩ ∧ n = m.shift p := by
  obtain ⟨body, hread, rfl⟩ := tree_eq_ok_iff.mp h
  obtain ⟨⟨hvalid, htext⟩, hmax⟩ := readProgram_eq_ok_iff_maximal.mp hread
  rw [← htext]
  refine ⟨rfl, ⟨_, rfl⟩, hvalid.tiles .start, fun n hn => ?_⟩
  obtain ⟨before, phrase, after, hsource, rfl, hphrase, hmaxPhrase⟩ :=
    Body.standsIn_of_below hn hvalid hmax rfl
  have hfollows : ((phrase.node (Position.start.after before)).position).Follows before := by
    rw [phrase.position_node]
    exact Position.start_after_follows before
  refine ⟨⟨before, after, ?_, hfollows, fun other rest hother hsame => ?_⟩, ?_⟩
  · rw [phrase.text_node, hsource]
  · exact hfollows.unique hsource hsame hother
  · intro text p children hquoted
    cases phrase with
    | word spelling => cases hquoted
    | number spelling => cases hquoted
    | quoted inner =>
      cases hquoted
      have hinner : inner.Valid := hphrase
      refine ⟨⟨inner.text, rfl, hinner.tiles _⟩, _, tree_quotation hinner hmaxPhrase, ?_⟩
      exact Phrase.node_after (.quoted inner) (Position.start.after before) []

/-- In a text of three lines, a quotation starts on the second line and goes on on the third. By
itself it starts on the first line. -/
theorem tree_covers_source_lines :
    let quotation : Node :=
      .quoted "[a\n b]".toList ⟨2, 1⟩ [.word ['a'] ⟨2, 2⟩, .word ['b'] ⟨3, 2⟩]
    tree "x\n[a\n b]" = .ok ⟨"x\n[a\n b]".toList, [.word ['x'] ⟨1, 1⟩, quotation]⟩ ∧
      Tiles ⟨1, 1⟩ "x\n[a\n b]".toList [.word ['x'] ⟨1, 1⟩, quotation] ∧
      ∃ m, tree (String.ofList "[a\n b]".toList) = .ok ⟨"[a\n b]".toList, [m]⟩ ∧
        quotation = m.shift ⟨2, 1⟩ := by
  intro quotation
  have hread : readProgram "x\n[a\n b]".toList = .ok (.item [] (.word ['x']) (.item ['\n']
      (.quoted (.item [] (.word ['a']) (.item ['\n', ' '] (.word ['b']) (.close [])))) (.close []))) := by
    cbv
  have htree : tree "x\n[a\n b]" =
      .ok ⟨"x\n[a\n b]".toList, [.word ['x'] ⟨1, 1⟩, quotation]⟩ :=
    tree_eq_ok_iff.mpr ⟨_, hread, rfl⟩
  obtain ⟨-, -, htiles, hnodes⟩ := tree_covers_source htree
  have hbelow : quotation.Below [.word ['x'] ⟨1, 1⟩, quotation] := .here (by simp)
  exact ⟨htree, htiles, ((hnodes quotation hbelow).2 _ _ _ rfl).2⟩

end Concatenative.Grammar
