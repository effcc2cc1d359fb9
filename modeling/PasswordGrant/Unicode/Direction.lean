import PasswordGrant.Unicode.Packed

/-!
# Writing direction

In which direction a character is written, or how it behaves between characters of one direction.

* `Direction`, `direction` : the property Bidi_Class, as far as names need it.
-/

namespace PasswordGrant.Unicode

/-- The direction of a character. What separates paragraphs and words, and what embeds, is `other`:
no name holds it. -/
inductive Direction where
  | leftToRight
  | rightToLeft
  | arabicLetter
  | arabicNumber
  | europeanNumber
  | numberSeparator
  | commonSeparator
  | numberTerminator
  | neutral
  | boundary
  | mark
  | other
  deriving DecidableEq, Repr

/-- The directions in the order in which they are numbered. -/
def Direction.ofNumber : Nat → Direction
  | 0 => .leftToRight
  | 1 => .rightToLeft
  | 2 => .arabicLetter
  | 3 => .arabicNumber
  | 4 => .europeanNumber
  | 5 => .numberSeparator
  | 6 => .commonSeparator
  | 7 => .numberTerminator
  | 8 => .neutral
  | 9 => .boundary
  | 10 => .mark
  | _ => .other

/-- Runs of characters of one direction. -/
def directionRuns : List (Nat × Nat) := Packed.runs 12 [
  "BxAnDlAnkvAk565iC46AwHcAwHcA8AxbHl68A7A80k9kjg80w40AkGc8J08ESckB0DkcDkAcBw0EkAKaA0kBc8Ack08AJc",
  "8ATcBaCG08ck71Ny1a1m1m1aRdArk2j262kCmOqFyC37fqaAGeBa38Ayem8AaeC4GeaIqHyAD2CmDqN1BydA8paGpAa1By",
  "1y1AmN1yA1OqfAqBmMqGy3JmR0a0aA0BmA0aoBaC0mIcaS0aA0AaBcaFcmDcjB07cacmRoaA0mA0mcyoaIomoaCcmRoaA0",
  "Am0mA0aFcmD07BcAy0aS0aca0AaBcaB0mCcmIoaT0aCoaL0Aw78AcaoaR0a0yAcy0AaB0mCcmFcB8caS0aDomFcmI0mRom",
  "A0AaBcaFcmIcaWoaB0y0aACoacBaA07B0BmAFcacByCcBaX0mHoa0a0aA8PoDm0Am0mAcCm0KyBoaAGoAa0Ay0mcmH0mA0",
  "yE0AaD0acmAoaDoaHZ0yOoC8AGo8HDobHckALoyIcmIomIomU0m0BaBcacCmB070aEoC8AoCky9aALomK0aAM0yA0mBoaA",
  "oyA08okAXcK8GcmcaS0a0Ba0a0acBmAoCacaOoJaP0AaOoa0Am0aAcaM0ByComJcAacm0yRca0moa0yS0BmcmAXcy0Da0B",
  "aA0aAoaomBMoUaER080wCcwD0wD0wD0k0Cnx01GwBb6AjDw6HkbAxAbAx4oAshw0C4hwEcOvJyDok0A80kC080wAcAw080",
  "808A07CckA0AkAcA8cE8McwA0AQ857CRkVoHk0AV8H0CkFoM8FgYoESw0DHwCG0HA8cJk0AHwBX0AwA0yB0B8AP0aAEoJm",
  "AE8K0Hk0ACkCoBS8HcCwA0bA8oH8BoAac8AckAcwACcmko8ACo8BM0KwRokP0E8I0wPcDwCoA8BCcA8AFokJ08CFM0U8JX",
  "BcR8DDcwAEcAa8CakIomZcmDcK8AGo8AN0aoaA0aH0m0A8aCcjS0A8Y0mHcEyD0aLcBmH0CmO0yOoacAacmLoaV0Aycmcm",
  "CoaBcaOcaPoa0ycmAcm0aMomBcaAL0kAN0acaA0aIYVo1aC15LdFHeEwAP28JlD2wEaC8AoEaJk686086Bw7khw08j8A0A",
  "Ue90kvAk565iC46AwHcAwHcCkANcjwj0B80BxAklCGc8TcYkoD8o8ADcaBW0aHsANcAmNUcCQd8BVpy1mAdAaM1yA1aBBp",
  "mAA1B8ES1KqAaBeC3AqCQpJ3NdmF1T2yOpG2CmJ2EpAaANd0aQoDyCcFkC0acmC0yP0AacmB0aT0yKoAm0BmTcaComQ0By",
  "C0AacaAEcyca0mAoacaAZ0aoBmFomRomoaL0BaoAmBLoBmcy0aGcaAAoAy0aA0m0mCA0AaAom0mHomAB0Bmca0mJ0D8Tca",
  "0acAy0aAGcycAa0AmCH0By0mCG0m0aA0aAUoAacmA0aJcAycmM0AycAaBcaBoAycyO0Da0mEE0Ba0AyAAoGacBa0m0mANc",
  "Ayoa0m0Ba0aWomoa0aDKcmCcmQ0AmAca0aAVcBkA7EkBNPcaAoDyFWE0AmScBaMK0aToAaZ080aIQTcm0A9BHFcOacGmFY",
  "0yBoBlBmcBaIoAaSckFoUwy8BIoABwKMo8Ro8Ro8Ro8Ro8C0PgFNcRaA0PmBcaDcaG0Am0DyQK0Ba0EmcBa0m0AmAG0aBA",
  "0BaDToaT0AaDo7FGoAaJA0BQ1BaAJ1BaJH1ZeU1ZeBFdCAqkDeCG1NkA0AG8CoDwcDw0Dw0L8C0CgAkJ08S0AwT08BG0Aw",
  "AY0LOwA0EkoD8oAMkA0AEkAoCwA08DoCwA0RkBcC8AoM8BcIwckYoDI8CoDkcD8oBwB0O80B8BcDkA0BwB0BwB0AVw0R8L",
  "0C4MDclAFHDclAFHDclAFHDclAFHDclAFHDclAFHDclAFHDclAFHDclAFHDclAFHDclAFHDclAFHDcCGxCAyATCxADGQ0l",
  "AFHDclAFHDcl"]

/-- The direction of a character. -/
def direction (c : Char) : Direction := .ofNumber (Packed.valueAt directionRuns c.toNat)

end PasswordGrant.Unicode
