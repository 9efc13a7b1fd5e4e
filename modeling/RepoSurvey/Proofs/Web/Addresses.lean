import Mathlib.Data.List.TakeWhile
import RepoSurvey.Web.Exchange

/-!
# Servers of addresses

The server of an address is told by what stands before the path.  So if one address below a base can be
asked, every address below that base can be asked, whatever stands behind it, and it is the same server that
is asked.
-/

namespace RepoSurvey

variable {α : Type} {test : α → Bool} {sign : α}

/-! ## Lists up to a sign -/

theorem takeWhile_append_cons (stops : test sign = false) (front rest : List α) :
    (front ++ sign :: rest).takeWhile test = front.takeWhile test := by
  induction front with
  | nil => simp [stops]
  | cons first others ih =>
      rw [List.cons_append, List.takeWhile_cons, List.takeWhile_cons, ih]

theorem dropWhile_append_cons (stops : test sign = false) (front rest : List α) :
    (front ++ sign :: rest).dropWhile test = front.dropWhile test ++ sign :: rest := by
  induction front with
  | nil => simp [stops]
  | cons first others ih =>
      rw [List.cons_append, List.dropWhile_cons, List.dropWhile_cons, ih]
      split <;> rfl

theorem dropWhile_append_of_mem {front : List α} (isIn : sign ∈ front) (stops : test sign = false)
    (rest : List α) : (front ++ rest).dropWhile test = front.dropWhile test ++ rest := by
  obtain ⟨before, behind, rfl⟩ := List.append_of_mem isIn
  rw [List.append_assoc, List.cons_append, dropWhile_append_cons stops, dropWhile_append_cons stops,
    List.append_assoc, List.cons_append]

theorem dropEndWhile_append_cons {test : Char → Bool} {sign : Char} (stops : test sign = false)
    (front rest : List Char) :
    dropEndWhile test (front ++ sign :: rest) = front ++ sign :: dropEndWhile test rest := by
  rw [dropEndWhile, dropEndWhile, List.reverse_append, List.reverse_cons, List.append_assoc,
    List.singleton_append, dropWhile_append_cons stops, List.reverse_append, List.reverse_cons,
    List.reverse_reverse, List.append_assoc, List.singleton_append]

namespace Web.Address

/-! ## The start of an address -/

/-- Two addresses name the same server. -/
structure SameServer (first second : Address) : Prop where
  scheme : first.scheme = second.scheme
  host : first.host = second.host
  port : first.port = second.port

/-- Characters without line breaks, which do not matter. -/
def unbroken (characters : List Char) : List Char :=
  characters.filter fun character =>
    !(character == '\t' || character == '\n' || character == '\r')

/-- What matters of the start of an address. -/
def startOf (text : String) : List Char := unbroken (text.toList.dropWhile (· ≤ ' '))

/-- What matters of the end of an address. -/
def endOf (text : String) : List Char := unbroken (dropEndWhile (· ≤ ' ') text.toList)

theorem unbroken_append (front rest : List Char) :
    unbroken (front ++ '/' :: rest) = unbroken front ++ '/' :: unbroken rest := by
  rw [unbroken, List.filter_append, List.filter_cons_of_pos (by decide)]
  rfl

theorem toList_append (front rest : String) :
    (front ++ "/" ++ rest).toList = front.toList ++ '/' :: rest.toList := by
  simp

theorem startOf_append (front name : String) :
    startOf (front ++ "/" ++ name) = startOf front ++ '/' :: unbroken name.toList := by
  rw [startOf, toList_append, dropWhile_append_cons (by decide), unbroken_append]
  rfl

/-- Reads the characters that matter. -/
def readCleaned (characters : List Char) : Except AddressError Address :=
  let (scheme, rest) := cut (· == ':') characters
  let isSchemeCharacter (character : Char) : Bool :=
    character.isAlphanum || character == '+' || character == '-' || character == '.'
  let isScheme := (scheme.head?.map Char.isAlpha).getD false && scheme.all isSchemeCharacter
  match rest with
  | [] => .error .malformed
  | _ :: rest =>
      let scheme := asciiLower (String.ofList scheme)
      if !isScheme then .error .malformed
      else if (usualPorts.lookup scheme).isSome then
        readAuthority scheme (rest.dropWhile isSlash)
      else .error (.withoutHost (scheme ++ ":" ++ escapeFragment rest))

theorem read_append (front rest : String) :
    read (front ++ "/" ++ rest) = readCleaned (startOf front ++ '/' :: endOf rest) := by
  have cleaned_eq : unbroken (dropEndWhile (· ≤ ' ')
      ((front ++ "/" ++ rest).toList.dropWhile (· ≤ ' '))) = startOf front ++ '/' :: endOf rest := by
    rw [toList_append, dropWhile_append_cons (by decide), dropEndWhile_append_cons (by decide),
      unbroken_append]
    rfl
  rw [← cleaned_eq]
  rfl

theorem readAuthority_append {scheme : String} {front rest : List Char} {address : Address}
    (isRead : readAuthority scheme (front ++ '/' :: rest) = .ok address) (other : List Char) :
    ∃ second, readAuthority scheme (front ++ '/' :: other) = .ok second ∧
      SameServer address second := by
  have sameStart (rest : List Char) :
      (cut endsAuthority (front ++ '/' :: rest)).1 = front.takeWhile (!endsAuthority ·) :=
    takeWhile_append_cons (by decide) front rest
  unfold readAuthority at isRead ⊢
  dsimp only at isRead ⊢
  rw [sameStart] at isRead ⊢
  split at isRead
  · cases isRead
    exact ⟨_, rfl, rfl, rfl, rfl⟩
  · cases isRead

theorem cut_append {front : List Char} (isFirst : ':' ∉ front) (rest : List Char) :
    cut (· == ':') (front ++ ':' :: rest) = (front, ':' :: rest) := by
  have noneIs : ∀ character ∈ front, (!character == ':') = true := by
    intro character isIn
    simp only [Bool.not_eq_true', beq_eq_false_iff_ne]
    exact fun isColon => isFirst (isColon ▸ isIn)
  rw [cut, takeWhile_append_cons (by decide), dropWhile_append_cons (by decide),
    List.takeWhile_eq_self_iff.mpr noneIs, List.dropWhile_eq_nil_iff.mpr noneIs, List.nil_append]

/-- What stands behind a name and a slash does not tell the server. -/
theorem readCleaned_append {before name rest : List Char} {address : Address}
    (hasName : ∃ character ∈ name, isSlash character = false)
    (isRead : readCleaned (before ++ '/' :: name ++ '/' :: rest) = .ok address)
    (other : List Char) :
    ∃ second, readCleaned (before ++ '/' :: name ++ '/' :: other) = .ok second ∧
      SameServer address second := by
  by_cases hasColon : ':' ∈ before
  · obtain ⟨scheme, behind, rfl, isFirst⟩ := List.eq_append_cons_of_mem hasColon
    have cut_eq (rest : List Char) :
        cut (· == ':') (scheme ++ ':' :: behind ++ '/' :: name ++ '/' :: rest) =
          (scheme, ':' :: (behind ++ '/' :: name ++ '/' :: rest)) := by
      rw [← cut_append isFirst]
      simp
    have drop_eq (rest : List Char) : (behind ++ '/' :: name ++ '/' :: rest).dropWhile isSlash =
        (behind ++ '/' :: name).dropWhile isSlash ++ '/' :: rest := by
      obtain ⟨character, isIn, notSlash⟩ := hasName
      exact dropWhile_append_of_mem (by simp [isIn]) notSlash ('/' :: rest)
    unfold readCleaned at isRead ⊢
    rw [cut_eq] at isRead ⊢
    dsimp only at isRead ⊢
    rw [drop_eq] at isRead ⊢
    split at isRead
    · cases isRead
    · rename_i isScheme
      split at isRead
      · rename_i isUsual
        rw [if_neg isScheme, if_pos isUsual]
        exact readAuthority_append isRead other
      · cases isRead
  · -- The part before the first colon goes on to the slash, so it is no scheme.
    have noneIs : ∀ character ∈ before, (!character == ':') = true := by
      intro character isIn
      simp only [Bool.not_eq_true', beq_eq_false_iff_ne]
      exact fun isColon => hasColon (isColon ▸ isIn)
    have goesOn : (cut (· == ':') (before ++ '/' :: name ++ '/' :: rest)).1 =
        before ++ '/' :: (name ++ '/' :: rest).takeWhile (!· == ':') := by
      rw [cut, List.append_assoc, List.takeWhile_append_of_pos noneIs, List.cons_append,
        List.takeWhile_cons_of_pos (by decide)]
    unfold readCleaned at isRead
    dsimp only at isRead
    rw [goesOn] at isRead
    split at isRead
    · cases isRead
    · simp at isRead

/-- Behind a base, a name and a slash, nothing tells the server. -/
theorem read_below {base name rest : String} {address : Address}
    (hasName : ∃ character ∈ unbroken name.toList, isSlash character = false)
    (isRead : read (base ++ "/" ++ name ++ "/" ++ rest) = .ok address) (other : String) :
    ∃ second, read (base ++ "/" ++ name ++ "/" ++ other) = .ok second ∧
      SameServer address second := by
  rw [read_append, startOf_append] at isRead ⊢
  exact readCleaned_append hasName isRead (endOf other)

end Web.Address

namespace Web.Request

/-! ## Requests -/

theorem make_eq_ok_iff {method : Method} {text body : String} {headers : List (String × String)}
    {request : Request} :
    make method text headers body = .ok request ↔
      ∃ address, Address.read text = .ok address ∧
        (headers.all fun header => isHeaderValue header.2) = true ∧
        (address.scheme = "http" ∨ address.scheme = "https") ∧
          { method, address, body
            headers := headers.map fun (name, value) => (name, headerValue value) } = request := by
  unfold make
  cases isRead : Address.read text with
  | error error => cases error <;> simp
  | ok address =>
      dsimp only
      constructor
      · intro isMade
        split at isMade
        · cases isMade
        · rename_i areValues
          split at isMade
          · cases isMade
          · rename_i isAsked
            refine ⟨address, rfl, by simpa using areValues, ?_, Except.ok.inj isMade⟩
            simpa [or_iff_not_imp_left] using isAsked
      · rintro ⟨_, same, areValues, isAsked, rfl⟩
        cases same
        rw [if_neg (by simpa using areValues), if_neg]
        simpa [or_iff_not_imp_left] using isAsked

/-- If one request below a base can be made, all of them can be made, and they go to the same server. -/
theorem make_below {method : Method} {base name rest body : String}
    {headers others : List (String × String)} {request : Request}
    (hasName : ∃ character ∈ Address.unbroken name.toList, Address.isSlash character = false)
    (isMade : make method (base ++ "/" ++ name ++ "/" ++ rest) headers body = .ok request)
    (areValues : (others.all fun header => isHeaderValue header.2) = true) (other : String) :
    ∃ second, make method (base ++ "/" ++ name ++ "/" ++ other) others body = .ok second ∧
      request.address.SameServer second.address := by
  obtain ⟨address, isRead, _, isAsked, rfl⟩ := make_eq_ok_iff.mp isMade
  obtain ⟨second, secondRead, same⟩ := Address.read_below hasName isRead other
  rw [same.scheme] at isAsked
  exact ⟨_, make_eq_ok_iff.mpr ⟨second, secondRead, areValues, isAsked, rfl⟩, same⟩

end Web.Request

end RepoSurvey
