import Mathlib.Data.List.Chain
import Spreadsheet.Proofs.Evaluation.Mentions
import Spreadsheet.Proofs.Formula.Grammar

/-!
# Reading references off tokens

The references of a formula are read off its tokens, while values come from its tree. The main
theorem, `colons_direct_iff`, says that both mention the same exactly if every colon of the formula
stands between two addresses: of a range that is written otherwise only the corners are found.
-/

namespace Spreadsheet

open Dependency (Mention mentions)
open Formula (Token Expr Phrase Derives)

/-- A mention as it stands in a tree, where function names are in upper case. -/
def Dependency.Mention.upper : Mention → Mention
  | .function word => .function (Text.upper word)
  | mention => mention

/-- What a phrase mentions. -/
def Formula.Phrase.mentions (sheetIndex : String → Option Nat) (home : Nat) : Phrase → List Mention
  | .primary expr => expr.mentions sheetIndex home
  | .tree expr => expr.mentions sheetIndex home
  | .operands exprs => Expr.mentionsAll sheetIndex home exprs
  | .rows items => Expr.mentionsRows sheetIndex home items

namespace Formula

/-- Whether two tokens may stand side by side if colons stand between addresses only. -/
def MayTouch (left right : Token) : Prop :=
  (right = .symbol .colon → ∃ address, left = .cell address) ∧
    (left = .symbol .colon → ∃ address, right = .cell address)

/-- Whether every colon stands between two addresses. -/
def ColonsDirect (tokens : List Token) : Prop := tokens.IsChain MayTouch

/-- Without a colon among the tokens, no colon stands apart from its corners. -/
theorem colons_direct_of_none {tokens : List Token} (h : .symbol .colon ∉ tokens) :
    ColonsDirect tokens := by
  refine (List.isChain_iff_getElem.mpr fun index hindex => ⟨fun hcolon => ?_, fun hcolon => ?_⟩)
  · exact absurd (List.getElem_mem _) (hcolon ▸ h)
  · exact absurd (List.getElem_mem _) (hcolon ▸ h)

/-- Whether tokens begin with neither of the symbols that the token before is read together
with. -/
def Closed (tokens : List Token) : Prop :=
  ∀ token ∈ tokens.head?, token ≠ .symbol .colon ∧ token ≠ .symbol .leftParen

/-- Nothing more to read is closed. -/
theorem closed_nil : Closed [] := by simp [Closed]

/-- What follows is closed if it starts with neither a colon nor a parenthesis. -/
theorem closed_cons {token : Token} {rest : List Token} :
    Closed (token :: rest) ↔ token ≠ .symbol .colon ∧ token ≠ .symbol .leftParen := by
  simp [Closed]

/-- A symbol other than those closes what comes before it. -/
theorem Closed.symbol {sign : Symbol} (h : sign ≠ .colon ∧ sign ≠ .leftParen) {rest : List Token} :
    Closed (.symbol sign :: rest) := by
  simpa [closed_cons] using h

/-- An operator between operands is neither a colon nor a parenthesis. -/
theorem Joins.closed {sign : Symbol} {operator : BinaryOperator} (h : Joins sign operator) :
    sign ≠ .colon ∧ sign ≠ .leftParen := by
  rcases h with ⟨level, hlevel⟩ | ⟨rfl, -⟩
  · constructor <;> rintro rfl <;> cases level <;> simp [Level.operator] at hlevel
  · decide

/-- An item put before the rows of an array is mentioned before them. -/
theorem Expr.mentions_rows_cons_item (sheetIndex : String → Option Nat) (home : Nat) (item : Expr)
    (rows : List (List Expr)) : Expr.mentionsRows sheetIndex home (consItem item rows) =
      item.mentions sheetIndex home ++ Expr.mentionsRows sheetIndex home rows := by
  cases rows <;> simp [consItem, Expr.mentionsRows, Expr.mentionsAll]

/-- An address that begins with one is written without a sheet. -/
theorem Derives.cell_of_head {sheet : Option String} {address : Address} {tokens : List Token}
    (h : Derives (.primary (.cell sheet address)) tokens)
    (hhead : ∀ token ∈ tokens.head?, ∃ other, token = .cell other) :
    sheet = none ∧ tokens = [.cell address] := by
  cases h with
  | cell => exact ⟨rfl, rfl⟩
  | sheetCell | group => simp at hhead

/-- An address that ends with one is written without parentheses. -/
theorem Derives.cell_of_last {sheet : Option String} {address : Address} {tokens : List Token}
    (h : Derives (.primary (.cell sheet address)) tokens)
    (hlast : ∀ token ∈ tokens.getLast?, ∃ other, token = .cell other) :
    (sheet = none ∧ tokens = [.cell address]) ∨
      ∃ name, sheet = some name ∧ tokens = [.sheet name, .cell address] := by
  cases h with
  | cell => exact .inl ⟨rfl, rfl⟩
  | sheetCell name => exact .inr ⟨name, rfl, rfl⟩
  | group =>
      rw [← List.cons_append, List.getLast?_concat] at hlast
      simp at hlast

end Formula

namespace Dependency

variable {sheetIndex : String → Option Nat} {home : Nat} {sheet : Option Nat}

/-- The name of a sheet says on which sheet the next token is looked up. -/
theorem mentions_sheet (name : String) (rest : List Token) :
    mentions sheetIndex home sheet (.sheet name :: rest) =
      mentions sheetIndex home (sheetIndex name) rest := by
  simp [mentions]

/-- A symbol mentions nothing, and what follows is looked up on the home sheet. -/
theorem mentions_symbol (sign : Formula.Symbol) (rest : List Token) :
    mentions sheetIndex home sheet (.symbol sign :: rest) =
      mentions sheetIndex home (some home) rest := by
  simp [mentions]

/-- The address of a cell that nothing continues mentions that cell, if the sheet exists. -/
theorem mentions_cell {address : Address} {rest : List Token} (h : Formula.Closed rest) :
    mentions sheetIndex home sheet (.cell address :: rest) =
      (sheet.map fun on => .cell on address.position).toList ++
        mentions sheetIndex home (some home) rest := by
  cases rest with
  | nil => simp [mentions]
  | cons token rest =>
      cases token <;> simp_all [mentions, Formula.closed_cons]

/-- What is closed does not start a call. -/
theorem starts_call_of_closed {rest : List Token} (h : Formula.Closed rest) :
    startsCall rest = false := by
  cases rest with
  | nil => rfl
  | cons token rest => cases token <;> simp_all [startsCall, Formula.closed_cons]

/-- A word that nothing continues mentions a name, if the sheet exists. -/
theorem mentions_identifier {word : String} {rest : List Token} (h : Formula.Closed rest) :
    mentions sheetIndex home sheet (.identifier word :: rest) =
      (sheet.map fun on => .name on word).toList ++ mentions sheetIndex home (some home) rest := by
  simp [mentions, starts_call_of_closed h]

/-- Two addresses with a colon between them mention one range, if the sheet exists. -/
theorem mentions_direct_range {first last : Address} {rest : List Token} :
    mentions sheetIndex home sheet (.cell first :: .symbol .colon :: .cell last :: rest) =
      (sheet.map fun on => .range on (.ofPositions first.position last.position)).toList ++
        mentions sheetIndex home (some home) rest := by
  simp [mentions]

/-- If the second corner names no sheet, the range is on the sheet of the first one. -/
theorem common_sheet_none {sheet found : Option String}
    (h : Formula.commonSheet sheet none = .ok found) : found = sheet := by
  cases sheet <;> exact (Except.ok.inj h).symm

/-- Of a range between two addresses side by side, the tokens mention what the tree does. -/
theorem mentions_range {leftSheet rightSheet found : Option String} {left right : Address}
    {first last : List Token} (hleft : Derives (.primary (.cell leftSheet left)) first)
    (hright : Derives (.primary (.cell rightSheet right)) last)
    (hsheet : Formula.commonSheet leftSheet rightSheet = .ok found)
    (hdirect : Formula.ColonsDirect (first ++ .symbol .colon :: last)) (suffix : List Token) :
    mentions sheetIndex home (some home) (first ++ .symbol .colon :: (last ++ suffix)) =
      (Expr.range found (.ofCorners left right)).mentions sheetIndex home ++
        mentions sheetIndex home (some home) suffix := by
  obtain ⟨-, hlast, htouch⟩ := List.isChain_append.mp hdirect
  obtain ⟨hhead, -⟩ := List.isChain_cons.mp hlast
  obtain ⟨rfl, rfl⟩ := hright.cell_of_head fun token htoken => (hhead token htoken).2 rfl
  obtain rfl := common_sheet_none hsheet
  rcases hleft.cell_of_last fun token htoken => (htouch token htoken _ rfl).1 rfl with
    ⟨rfl, rfl⟩ | ⟨name, rfl, rfl⟩
  · simp [mentions_direct_range, Expr.mentions, placeOf, CellRange.unmarked_of_corners]
  · simp [mentions, Expr.mentions, placeOf, CellRange.unmarked_of_corners]

/-- Where colons stand between addresses, the tokens of a phrase mention what the phrase does. -/
theorem mentions_of_derives (sheetIndex : String → Option Nat) (home : Nat) {phrase : Phrase}
    {tokens : List Token} (h : Derives phrase tokens) (hdirect : Formula.ColonsDirect tokens)
    {suffix : List Token} (hsuffix : Formula.Closed suffix) :
    (mentions sheetIndex home (some home) (tokens ++ suffix)).map Mention.upper =
      phrase.mentions sheetIndex home ++
        (mentions sheetIndex home (some home) suffix).map Mention.upper := by
  -- one case for each production; colons matter in that of a range only
  induction h generalizing suffix with
  | number | text | logical | error => simp [mentions, Phrase.mentions, Expr.mentions]
  | cell address =>
      simp [mentions_cell hsuffix, Phrase.mentions, Expr.mentions, placeOf, Mention.upper]
  | sheetCell name address =>
      cases hname : sheetIndex name <;>
        simp [mentions_sheet, mentions_cell hsuffix, Phrase.mentions, Expr.mentions, placeOf,
          Mention.upper, hname]
  | name word =>
      simp [mentions_identifier hsuffix, Phrase.mentions, Expr.mentions, placeOf, Mention.upper]
  | sheetName name word =>
      cases hname : sheetIndex name <;>
        simp [mentions_sheet, mentions_identifier hsuffix, Phrase.mentions, Expr.mentions, placeOf,
          Mention.upper, hname]
  | group _ ih =>
      rw [List.cons_append, mentions_symbol, List.append_assoc, List.singleton_append,
        ih hdirect.tail.left_of_append (.symbol (by decide)), mentions_symbol]
      rfl
  | emptyCall word => simp [mentions, startsCall, Phrase.mentions, Expr.mentions, Expr.mentionsAll,
      Mention.upper]
  | call word _ ih =>
      have hrest := ih hdirect.tail.tail hsuffix
      simpa [mentions, startsCall, Phrase.mentions, Expr.mentions, Mention.upper] using hrest
  | array _ ih =>
      rw [List.cons_append, mentions_symbol, ih hdirect.tail hsuffix]
      rfl
  | primary _ ih => exact ih hdirect hsuffix
  | @range _ _ sheet left right first last hleft hright hsheet =>
      rw [List.append_assoc, List.cons_append, mentions_range hleft hright hsheet hdirect,
        List.map_append]
      cases hplace : placeOf sheetIndex home sheet <;>
        simp [Phrase.mentions, Expr.mentions, Mention.upper, hplace]
  | percent _ ih =>
      rw [List.append_assoc, List.singleton_append,
        ih hdirect.left_of_append (.symbol (by decide)), mentions_symbol]
      rfl
  | negate _ ih =>
      rw [List.cons_append, mentions_symbol, ih hdirect.tail hsuffix]
      rfl
  | plus _ ih =>
      rw [List.cons_append, mentions_symbol, ih hdirect.tail hsuffix]
  | binary hsign _ _ ihLeft ihRight =>
      rw [List.append_assoc, List.cons_append, ihLeft hdirect.left_of_append (.symbol hsign.closed),
        mentions_symbol, ihRight hdirect.right_of_append.tail hsuffix, ← List.append_assoc]
      rfl
  | lastOperand _ ih =>
      rw [List.append_assoc, List.singleton_append,
        ih hdirect.left_of_append (.symbol (by decide)), mentions_symbol]
      simp [Phrase.mentions, Expr.mentionsAll]
  | operand _ _ ih ihRest =>
      rw [List.append_assoc, List.cons_append, ih hdirect.left_of_append (.symbol (by decide)),
        mentions_symbol, ihRest hdirect.right_of_append.tail hsuffix, ← List.append_assoc]
      rfl
  | lastItem _ ih =>
      rw [List.append_assoc, List.singleton_append,
        ih hdirect.left_of_append (.symbol (by decide)), mentions_symbol]
      simp [Phrase.mentions, Expr.mentionsAll, Expr.mentionsRows]
  | item _ _ ih ihRest =>
      rw [List.append_assoc, List.cons_append, ih hdirect.left_of_append (.symbol (by decide)),
        mentions_symbol, ihRest hdirect.right_of_append.tail hsuffix, ← List.append_assoc]
      simp [Phrase.mentions, Expr.mentions_rows_cons_item]
  | rowEnd _ _ ih ihRest =>
      rw [List.append_assoc, List.cons_append, ih hdirect.left_of_append (.symbol (by decide)),
        mentions_symbol, ihRest hdirect.right_of_append.tail hsuffix, ← List.append_assoc]
      simp [Phrase.mentions, Expr.mentionsAll, Expr.mentionsRows]

section Counting

/-- Whether a mention is one of a range. -/
def Mention.isRange : Mention → Bool
  | .range .. => true
  | _ => false

/-- Whether a token is a colon. -/
def isColon (token : Token) : Bool := token == .symbol .colon

/-- Where every sheet exists, a reference lies somewhere. -/
theorem place_of_everywhere (home : Nat) (sheet : Option String) :
    ∃ on, placeOf (fun _ => some 0) home sheet = some on := by
  cases sheet <;> exact ⟨_, rfl⟩

/-- A phrase has a range for every colon. -/
theorem count_ranges_of_derives {phrase : Phrase} {tokens : List Token} (h : Derives phrase tokens)
    (home : Nat) :
    (phrase.mentions (fun _ => some 0) home).countP Mention.isRange = tokens.countP isColon := by
  induction h with
  | @range leftSheet rightSheet sheet _ _ _ _ _ _ _ ihLeft ihRight =>
      obtain ⟨on, hon⟩ := place_of_everywhere home sheet
      obtain ⟨leftOn, hleftOn⟩ := place_of_everywhere home leftSheet
      obtain ⟨rightOn, hrightOn⟩ := place_of_everywhere home rightSheet
      simp only [Phrase.mentions, Expr.mentions, hleftOn] at ihLeft
      simp only [Phrase.mentions, Expr.mentions, hrightOn] at ihRight
      rw [List.countP_append, List.countP_cons, ← ihLeft, ← ihRight]
      simp [Phrase.mentions, Expr.mentions, hon, Mention.isRange, isColon]
  | @binary sign _ _ _ _ _ hsign _ _ ihLeft ihRight =>
      have hcolon : isColon (.symbol sign) = false := by simpa [isColon] using hsign.closed.1
      simp_all [Phrase.mentions, Expr.mentions]
  | item _ _ ih ihRest => simp_all [Phrase.mentions, Expr.mentions_rows_cons_item, isColon]
  | _ => simp_all [Phrase.mentions, Expr.mentions, Expr.mentionsAll, Expr.mentionsRows, placeOf,
      Mention.isRange, isColon]

section Pieces

variable (sheet : Option Nat)

/-- A mention that is no range counts as none. -/
theorem count_at_sheet_eq_zero {mention : Nat → Mention} (h : ∀ on, (mention on).isRange = false) :
    ((sheet.map mention).toList).countP Mention.isRange = 0 := by
  cases sheet <;> simp [h]

/-- A word counts as no range, whether it is a function or a name. -/
theorem count_identifier_eq_zero (isCall : Bool) (word : String) :
    (if isCall = true then [Mention.function word]
      else (sheet.map fun on => Mention.name on word).toList).countP Mention.isRange = 0 := by
  split
  · simp [Mention.isRange]
  · exact count_at_sheet_eq_zero sheet fun _ => rfl

/-- A range counts as at most one. -/
theorem count_range_le_one (area : CellRange) :
    ((sheet.map fun on => Mention.range on area).toList).countP Mention.isRange ≤ 1 := by
  cases sheet <;> simp [Mention.isRange]

end Pieces

/-- A range between two addresses has one colon more than the tokens behind it. -/
theorem count_direct_colons (first last : Address) (rest : List Token) :
    (Token.cell first :: .symbol .colon :: .cell last :: rest).countP isColon =
      rest.countP isColon + 1 := by
  simp [isColon]

/-- Tokens mention no more ranges than they have colons. -/
theorem count_mentions_le (sheetIndex : String → Option Nat) (home : Nat) (sheet : Option Nat)
    (tokens : List Token) :
    (mentions sheetIndex home sheet tokens).countP Mention.isRange ≤ tokens.countP isColon := by
  fun_induction mentions sheetIndex home sheet tokens with
  | case1 => simp
  | case2 sheet name rest ih => simpa [isColon] using ih
  | case3 sheet first last rest ih =>
      have hrange := count_range_le_one sheet (.ofPositions first.position last.position)
      rw [List.countP_append, count_direct_colons]
      omega
  | case4 sheet address rest hrest ih =>
      rw [List.countP_append, count_at_sheet_eq_zero sheet fun _ => rfl]
      simpa [isColon] using ih
  | case5 sheet word rest ih =>
      rw [List.countP_append, count_identifier_eq_zero]
      simpa [isColon] using ih
  | case6 sheet token rest _ _ _ _ ih =>
      rw [List.countP_cons]
      omega

/-- Tokens with as many ranges as colons do not begin with a colon. -/
theorem head_not_colon {sheet : Option Nat} {tokens : List Token}
    (h : tokens.countP isColon ≤ (mentions sheetIndex home sheet tokens).countP Mention.isRange) :
    ∀ token ∈ tokens.head?, token ≠ .symbol .colon := by
  cases tokens with
  | nil => simp
  | cons token rest =>
      rintro _ hhead rfl
      obtain rfl : token = .symbol .colon := by simpa using hhead
      have hle := count_mentions_le sheetIndex home (some home) rest
      rw [mentions_symbol, List.countP_cons] at h
      simp [isColon] at h hle
      omega

/-- A token that is no colon, with none behind it, leaves the colons as direct as they are. -/
theorem direct_cons {token : Token} {rest : List Token} (htoken : token ≠ .symbol .colon)
    (hhead : ∀ next ∈ rest.head?, next ≠ .symbol .colon) (hrest : Formula.ColonsDirect rest) :
    Formula.ColonsDirect (token :: rest) :=
  List.isChain_cons.mpr ⟨fun next hnext => ⟨fun h => absurd h (hhead next hnext),
    fun h => absurd h htoken⟩, hrest⟩

/-- The address of a cell leaves the colons behind it as direct as they are. -/
theorem direct_cell {address : Address} {rest : List Token} (hrest : Formula.ColonsDirect rest) :
    Formula.ColonsDirect (.cell address :: rest) :=
  List.isChain_cons.mpr ⟨fun _ _ => ⟨fun _ => ⟨address, rfl⟩, nofun⟩, hrest⟩

/-- Where tokens mention a range for every colon, colons stand between addresses. -/
theorem colons_direct_of_count {sheet : Option Nat} {tokens : List Token}
    (h : tokens.countP isColon ≤ (mentions sheetIndex home sheet tokens).countP Mention.isRange) :
    Formula.ColonsDirect tokens := by
  fun_induction mentions sheetIndex home sheet tokens with
  | case1 => exact .nil
  | case2 sheet name rest ih =>
      have hrest : rest.countP isColon ≤
          (mentions sheetIndex home (sheetIndex name) rest).countP Mention.isRange := by
        simpa [isColon] using h
      exact direct_cons nofun (head_not_colon hrest) (ih hrest)
  | case3 sheet first last rest ih =>
      -- the range takes one colon with it, so the rest still has one for each
      have hrange := count_range_le_one sheet (.ofPositions first.position last.position)
      rw [List.countP_append, count_direct_colons] at h
      have hlast : Formula.ColonsDirect (.cell last :: rest) := direct_cell (ih (by omega))
      refine direct_cell (List.isChain_cons.mpr ⟨fun next hnext => ?_, hlast⟩)
      obtain rfl : Token.cell last = next := by simpa using hnext
      exact ⟨nofun, fun _ => ⟨last, rfl⟩⟩
  | case4 sheet address rest _ ih =>
      rw [List.countP_append, count_at_sheet_eq_zero sheet fun _ => rfl] at h
      exact direct_cell (ih (by simpa [isColon] using h))
  | case5 sheet word rest ih =>
      rw [List.countP_append, count_identifier_eq_zero] at h
      have hrest : rest.countP isColon ≤
          (mentions sheetIndex home (some home) rest).countP Mention.isRange := by
        simpa [isColon] using h
      exact direct_cons nofun (head_not_colon hrest) (ih hrest)
  | case6 sheet token rest _ _ _ _ ih =>
      have hle := count_mentions_le sheetIndex home (some home) rest
      rw [List.countP_cons] at h
      -- a colon that is passed over is one too many
      have hcolon : token ≠ .symbol .colon := by
        rintro rfl
        simp [isColon] at h hle
        omega
      have hrest : rest.countP isColon ≤
          (mentions sheetIndex home (some home) rest).countP Mention.isRange := by
        omega
      exact direct_cons hcolon (head_not_colon hrest) (ih hrest)

end Counting

/-- The tokens of a formula mention what its tree does, wherever references lie, exactly if its
colons stand between addresses. -/
theorem colons_direct_iff {tokens : List Token} {tree : Expr}
    (h : Formula.parseTokens tokens = .ok tree) :
    Formula.ColonsDirect tokens ↔ ∀ sheetIndex home,
      (mentions sheetIndex home (some home) tokens).map Mention.upper =
        tree.mentions sheetIndex home := by
  have hderives := Formula.derives_of_parse h
  constructor
  · intro hdirect sheetIndex home
    simpa [mentions, Phrase.mentions] using
      mentions_of_derives sheetIndex home hderives hdirect Formula.closed_nil
  · intro hsame
    -- where every sheet exists, the tree has a range for every colon
    have hranges := count_ranges_of_derives hderives 0
    rw [Phrase.mentions, ← hsame, List.countP_map] at hranges
    have hcount : (mentions (fun _ => some 0) 0 (some 0) tokens).countP Mention.isRange =
        tokens.countP isColon := by
      rw [← hranges]
      refine List.countP_congr fun mention _ => ?_
      cases mention <;> rfl
    exact colons_direct_of_count hcount.ge

end Dependency

end Spreadsheet
