import FactoryRegistry.Proofs.Yaml.Content
import FactoryRegistry.Yaml.Token.Reader

/-!
# Why tokens end

Reading tokens ends early where the text breaks a rule of the format, and in two places for another
reason: a version has too many digits, or an escaped code point is beyond the last one
(`accounted_tokens`). The lemmas follow the readers from single parts of a token to whole texts.
-/

namespace FactoryRegistry.Yaml

open Number

variable {cs : List Char}

/-! ## Tags -/

/-- `readEscapedBytes` fails on an escape without two digits. -/
theorem accounted_readEscapedBytes (cs : List Char) :
    FailsOnly Error.Accounted (readEscapedBytes cs) := by
  fun_induction readEscapedBytes cs with
  | case1 a b cs x y ha hb hsmall ih => exact ih.map
  | case2 | case3 | case4 => exact accounted_malformed
  | case5 => exact .ok

/-- `readTagChars` fails on escaped bytes that are no text in UTF-8. -/
theorem accounted_readTagChars (fuel : Nat) (cs : List Char) :
    FailsOnly Error.Accounted (readTagChars fuel cs) := by
  induction fuel generalizing cs with
  | zero => exact .ok
  | succ fuel ih =>
    cases cs with
    | nil => exact .ok
    | cons c cs =>
      rw [readTagChars]
      split
      · refine (accounted_readEscapedBytes _).bind fun ⟨bytes, rest⟩ => ?_
        dsimp only
        split
        · exact (ih _).map
        · exact accounted_throw
      · split
        · exact (ih _).map
        · exact .ok

theorem accounted_readTagText (cs : List Char) : FailsOnly Error.Accounted (readTagText cs) := by
  refine (accounted_readTagChars _ _).bind fun ⟨text, rest⟩ => ?_
  dsimp only
  split
  · exact accounted_throw.bind fun _ => .pure
  · exact .pure

theorem accounted_readHandle (cs : List Char) : FailsOnly Error.Accounted (readHandle cs) := by
  unfold readHandle
  split
  · split
    · exact .ok
    · extract_lets name
      split
      · exact .ok
      · exact accounted_malformed
  · exact accounted_malformed

theorem accounted_readTagBody (cs : List Char) : FailsOnly Error.Accounted (readTagBody cs) := by
  unfold readTagBody
  split
  · refine (accounted_readTagText _).bind fun tag => ?_
    split
    · exact .pure
    · exact accounted_throw
  · split
    · exact .ok
    · split
      · exact (accounted_readHandle _).bind fun _ => (accounted_readTagText _).bind fun _ => .pure
      · exact (accounted_readTagText _).bind fun _ => .pure

theorem accounted_readTag (cs : List Char) : FailsOnly Error.Accounted (readTag cs) := by
  refine (accounted_readTagBody cs).bind fun ⟨tag, rest⟩ => ?_
  dsimp -zeta only
  split
  · exact .pure
  · exact accounted_throw

/-! ## Scalars -/

/-- `codeChar` fails on a code point beyond the last one, which is `Unmakeable`. -/
theorem accounted_codeChar (n : Nat) : FailsOnly Error.Accounted (codeChar n) := by
  rw [codeChar]
  split
  next h => exact .error (Failure.Unmakeable.codePoint h)
  · split <;> exact .ok

/-- `readDouble` fails where a text is not closed, or on an escape. -/
theorem accounted_readDouble (between : Between) (cs : List Char) :
    FailsOnly Error.Accounted (readDouble between cs) := by
  fun_induction readDouble between cs with
  | case1 | case4 | case6 | case8 => exact accounted_malformed
  | case10 => exact .ok
  | case2 between c cs x hescape ih => exact ih.map
  | case3 between c cs _ count _ n _ ih =>
    -- the only escape that can stand for no character
    exact (accounted_codeChar n).bind fun _ => ih.bind fun _ => .pure
  | case5 between c cs _ _ _ ih => exact ih.map
  | case7 between c cs _ _ ih => exact ih
  | case9 between c cs _ _ _ _ ih => exact ih
  | case11 between c cs _ _ _ _ ih => exact ih.map

/-- `readSingle` fails where a text is not closed. -/
theorem accounted_readSingle (between : Between) (cs : List Char) :
    FailsOnly Error.Accounted (readSingle between cs) := by
  fun_induction readSingle between cs with
  | case1 | case4 => exact accounted_malformed
  | case6 => exact .ok
  | case2 between cs ih => exact ih.map
  | case3 between c cs _ _ ih => exact ih
  | case5 between c cs _ _ _ _ ih => exact ih
  | case7 between c cs _ _ _ _ ih => exact ih.map

theorem accounted_readQuoted (double : Bool) (cs : List Char) :
    FailsOnly Error.Accounted (readQuoted double cs) := by
  rw [readQuoted]
  split
  · exact accounted_readDouble _ cs
  · exact accounted_readSingle _ cs

theorem accounted_readIncrement (cs : List Char) :
    FailsOnly Error.Accounted (readIncrement cs) := by
  unfold readIncrement
  split
  · exact accounted_malformed
  · split <;> exact .ok
  · exact .ok

theorem accounted_readBlockHeader (cs : List Char) :
    FailsOnly Error.Accounted (readBlockHeader cs) := by
  unfold readBlockHeader
  split
  · exact (accounted_readIncrement _).bind fun _ => .pure
  · exact (accounted_readIncrement _).bind fun _ => .pure

theorem accounted_passRestOfLine (cs : List Char) :
    FailsOnly Error.Accounted (passRestOfLine cs) := by
  unfold passRestOfLine
  extract_lets spaced rest
  cases rest with
  | nil => exact .ok
  | cons c rest =>
    dsimp only
    split
    · exact .ok
    · exact accounted_malformed

theorem accounted_readBlock (folded : Bool) (parent : Int) (cs : List Char) :
    FailsOnly Error.Accounted (readBlock folded parent cs) := by
  unfold readBlock
  refine (accounted_readBlockHeader cs).bind fun ⟨header, cs⟩ => ?_
  dsimp -zeta only
  extract_lets least next
  have hnext : ∀ u, FailsOnly Error.Accounted (next u) := fun u =>
    (accounted_passRestOfLine _).bind fun _ => .pure
  split
  · exact accounted_throw.bind hnext
  · exact hnext ()

/-! ## Directives -/

/-- `readVersionNumber` fails where there are no digits, or too many. -/
theorem accounted_readVersionNumber (cs : List Char) :
    FailsOnly Error.Accounted (readVersionNumber cs) := by
  unfold readVersionNumber
  extract_lets digits
  split
  · exact .ok
  next h => exact .error (Failure.Unmakeable.digits (accounted_readInteger _ _ _ h))
  · exact accounted_malformed

theorem accounted_readVersion (cs : List Char) : FailsOnly Error.Accounted (readVersion cs) := by
  refine (accounted_readVersionNumber _).bind fun ⟨major, cs⟩ => ?_
  dsimp -zeta only
  split
  · refine (accounted_readVersionNumber _).bind fun ⟨minor, rest⟩ => ?_
    dsimp only
    split
    · exact .pure
    · exact accounted_throw
  · exact accounted_throw

theorem accounted_readTagMeaning (cs : List Char) :
    FailsOnly Error.Accounted (readTagMeaning cs) := by
  refine (accounted_readHandle _).bind fun ⟨handle, cs⟩ => ?_
  dsimp -zeta only
  extract_lets next
  have hnext : ∀ u, FailsOnly Error.Accounted (next u) := fun u => by
    refine (accounted_readTagText _).bind fun ⟨meaning, rest⟩ => ?_
    dsimp -zeta only
    split
    · exact .pure
    · exact accounted_throw
  split
  · exact accounted_throw.bind hnext
  · exact hnext ()

theorem accounted_readDirective (cs : List Char) :
    FailsOnly Error.Accounted (readDirective cs) := by
  unfold readDirective
  extract_lets name rest finish next
  -- whatever the directive says, the rest of its line is passed
  have hfinish : ∀ d, FailsOnly Error.Accounted (finish d) := fun _ =>
    (accounted_passRestOfLine _).bind fun _ => .pure
  have hnext : ∀ u, FailsOnly Error.Accounted (next u) := fun u => by
    change FailsOnly Error.Accounted (if _ then _ else if _ then _ else _)
    split
    · exact (accounted_readVersion _).bind hfinish
    · split
      · exact (accounted_readTagMeaning _).bind hfinish
      · exact FailsOnly.pure.bind hfinish
  split
  · exact accounted_throw.bind hnext
  · exact hnext ()

/-! ## Tokens -/

namespace Lexer

/-- `forgetKey` fails where the key that may be forgotten is required. -/
theorem accounted_forgetKey (s : Lexer) : FailsOnly Error.Accounted s.forgetKey := by
  rw [forgetKey]
  split
  · exact .ok
  · split
    · exact accounted_malformed
    · exact .ok

theorem accounted_rememberKey (s : Lexer) : FailsOnly Error.Accounted s.rememberKey := by
  rw [rememberKey]
  split
  · exact .ok
  · exact (accounted_forgetKey _).bind fun _ => .pure

theorem accounted_addBoundary (t : Token) (s : Lexer) :
    FailsOnly Error.Accounted (s.addBoundary t) :=
  (accounted_forgetKey _).bind fun _ => .pure

theorem accounted_openBlockHere (start : Token) (s : Lexer) :
    FailsOnly Error.Accounted (s.openBlockHere start) := by
  rw [openBlockHere]
  split
  · exact .ok
  · split
    · exact accounted_malformed
    · split <;> exact .ok

/-- `addContent` fails as `rememberKey` does, or as the reader of the content. -/
theorem accounted_addContent {read : List Char → Except Error (Token × List Char)}
    (h : ∀ cs, FailsOnly Error.Accounted (read cs)) (s : Lexer) :
    FailsOnly Error.Accounted (s.addContent read) :=
  (accounted_rememberKey _).bind fun _ => (h _).bind fun _ => .pure

theorem accounted_readAnchor (make : String → Token) (cs : List Char) :
    FailsOnly Error.Accounted (readAnchor make cs) := by
  unfold readAnchor
  extract_lets name rest
  split
  · exact accounted_malformed
  · exact .ok

theorem accounted_addDocumentMark (t : Token) (s : Lexer) :
    FailsOnly Error.Accounted (s.addDocumentMark t) :=
  (accounted_addBoundary t s).bind fun _ => .pure

theorem accounted_openFlow (t : Token) (s : Lexer) : FailsOnly Error.Accounted (s.openFlow t) :=
  (accounted_rememberKey s).bind fun _ => .pure

theorem accounted_closeFlow (t : Token) (s : Lexer) :
    FailsOnly Error.Accounted (s.closeFlow t) := by
  unfold closeFlow
  extract_lets next
  have hnext : ∀ u, FailsOnly Error.Accounted (next u) := fun _ =>
    (accounted_forgetKey s).bind fun _ => .pure
  split
  · exact accounted_throw.bind hnext
  · exact hnext ()

theorem accounted_addComma (s : Lexer) : FailsOnly Error.Accounted s.addComma :=
  (accounted_forgetKey _).bind fun _ => .pure

theorem accounted_addItem (s : Lexer) : FailsOnly Error.Accounted s.addItem :=
  (accounted_openBlockHere _ s).bind fun _ => (accounted_forgetKey _).bind fun _ => .pure

theorem accounted_addKey (s : Lexer) : FailsOnly Error.Accounted s.addKey :=
  (accounted_openBlockHere _ s).bind fun _ => (accounted_forgetKey _).bind fun _ => .pure

theorem accounted_addValue (s : Lexer) : FailsOnly Error.Accounted s.addValue := by
  unfold addValue
  split
  · exact .pure
  · exact (accounted_openBlockHere _ s).bind fun _ => (accounted_forgetKey _).bind fun _ => .pure

theorem accounted_addBlockScalar (folded : Bool) (s : Lexer) :
    FailsOnly Error.Accounted (s.addBlockScalar folded) :=
  (accounted_forgetKey _).bind fun _ => (accounted_readBlock _ _ _).bind fun _ => .pure

theorem accounted_addPlain (s : Lexer) : FailsOnly Error.Accounted s.addPlain :=
  (accounted_rememberKey s).bind fun _ => .pure

theorem accounted_addDirective (s : Lexer) : FailsOnly Error.Accounted s.addDirective :=
  (accounted_forgetKey _).bind fun _ => (accounted_readDirective _).bind fun _ => .pure

/-- `readToken` fails as the reader that the next character chooses, or where none does. -/
theorem accounted_readToken (c : Char) (cs : List Char) (s : Lexer) :
    FailsOnly Error.Accounted (s.readToken c cs) := by
  have hanchor : ∀ make, FailsOnly Error.Accounted (s.addContent (readAnchor make)) := fun make =>
    accounted_addContent (accounted_readAnchor make) s
  have htag : FailsOnly Error.Accounted (s.addContent readTagToken) :=
    accounted_addContent (fun cs => (accounted_readTag cs).bind fun _ => .pure) s
  have hquoted : ∀ double, FailsOnly Error.Accounted (s.addContent (readQuotedToken double)) :=
    fun double =>
      accounted_addContent (fun cs => (accounted_readQuoted double cs).bind fun _ => .pure) s
  unfold readToken
  extract_lets flow next atStart separated
  -- the tokens in the order in which the reader tries them
  refine .ite (accounted_addDirective s) ?_
  refine .ite (accounted_addDocumentMark _ s) (.ite (accounted_addDocumentMark _ s) ?_)
  refine .ite (accounted_openFlow _ s) (.ite (accounted_openFlow _ s) ?_)
  refine .ite (accounted_closeFlow _ s) (.ite (accounted_closeFlow _ s) ?_)
  refine .ite (accounted_addComma s) (.ite (accounted_addItem s) ?_)
  refine .ite (accounted_addKey s) (.ite (accounted_addValue s) ?_)
  refine .ite (hanchor _) (.ite (hanchor _) (.ite htag ?_))
  refine .ite (accounted_addBlockScalar _ s) (.ite (accounted_addBlockScalar _ s) ?_)
  refine .ite (hquoted _) (.ite (hquoted _) ?_)
  exact .ite (accounted_addPlain s) accounted_malformed

/-- `advanceToToken` fails where a key that is required has gone stale. -/
theorem accounted_advanceToToken (s : Lexer) : FailsOnly Error.Accounted s.advanceToToken := by
  refine FailsOnly.bind ?_ fun _ => .pure
  unfold dropStaleKeys
  extract_lets isStale
  split
  · exact accounted_malformed
  · exact .ok

/-- The reason for which tokens end is one of those of `advanceToToken` and `readToken`. The
induction is on `fuel`. -/
theorem accounted_readTokens (fuel : Nat) (s : Lexer) :
    ∀ e ∈ (readTokens fuel s).2, e.Accounted := by
  induction fuel generalizing s with
  | zero =>
    rintro e ⟨⟩
    trivial
  | succ fuel ih =>
    rw [readTokens]
    split
    -- no further token is found
    next error hadvance =>
      rintro e ⟨⟩
      exact accounted_advanceToToken s _ hadvance
    -- a token begins here, or the text ends
    next s _ =>
      split
      · split
        · exact fun _ h => nomatch h
        next error hend =>
          rintro e ⟨⟩
          exact accounted_addBoundary _ s _ hend
      next c cs _ =>
        split
        · exact ih _
        next error hread =>
          rintro e ⟨⟩
          exact accounted_readToken c cs s _ hread

end Lexer

theorem accounted_tokens (cs : List Char) : ∀ e ∈ (tokens cs).2, e.Accounted :=
  Lexer.accounted_readTokens _ _

end FactoryRegistry.Yaml
