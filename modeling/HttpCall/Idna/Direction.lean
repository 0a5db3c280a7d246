import HttpCall.Text.Blank
import HttpCall.Text.CodeTable

/-!
# Directions

Letters are written from the left or from the right.  In a name with letters from
the right every label must keep to one direction, so that it is shown as it is
read.
-/

namespace HttpCall
namespace Idna

def directions : Text.CodeTable := .ofText
  "0,4 30,3 a,4 27,0 1a,4 64,0 18,4 1,0 1c1,4 2,0 7,4 e,0 2,4 1c,0 1,4 11,5 71,0 4,4 2,0 7f,4
    2,0 8b,5 8,0 ff,4 7,5 2d,1 1,5 1,1 1,5 2,1 1,5 2,1 1,5 9,1 36,4 2,1 1,4 2,1 1,4 1,1 1,4
    2,5 b,1 30,5 15,2 a,4 1,2 2,1 3,5 1,1 65,5 8,4 1,5 6,1 2,5 2,4 1,5 4,1 2,3 a,1 17,5 1,1
    1e,5 1d,1 59,5 b,1 3a,5 9,1 2,4 4,1 3,5 1,1 18,5 4,1 1,5 9,1 1,5 3,1 1,5 7,1 29,5 5,1 39,5
    9,1 2a,5 39,0 37,5 1,0 1,5 1,0 4,5 8,0 4,5 1,0 3,5 f,0 2,5 2,0 1d,5 1,0 3a,5 1,0 4,5 6,0
    6,5 1,0 14,5 4,0 c,4 2,0 7,4 1,0 2,5 5,0 39,5 2,0 3,5 1b,0 14,5 2,0 3,5 1,0 b,5 2,0 39,5
    1,0 4,5 8,0 4,5 3,0 12,5 4,0 b,4 8,0 1,5 8,0 3a,5 1,0 2,5 1,0 1,5 6,0 6,5 a,0 b,5 4,0 1c,5
    1,0 3d,5 1,0 c,5 3,0 23,4 d,5 1,0 3,5 1,0 37,5 1,0 1,5 3,0 5,5 12,0 a,5 4,0 12,4 7,0 2,5
    1,0 3a,5 1,0 f,5 9,0 d,5 4,0 1a,5 2,0 39,5 2,0 4,5 5,0 7,5 1,0 14,5 4,0 1b,5 1,0 48,5 5,0
    3,5 6,0 59,5 1,0 2,5 b,4 1,0 7,5 8,0 62,5 1,0 2,5 9,0 b,5 8,0 48,5 2,0 1b,5 1,0 1,5 1,0
    1,5 1,4 4,0 33,5 e,0 1,5 5,0 1,5 2,0 5,5 31,0 8,5 1,0 66,5 4,0 1,5 6,0 1,5 2,0 2,5 2,0
    19,5 2,0 4,5 3,0 10,5 4,0 d,5 1,0 2,5 2,0 6,5 1,0 f,5 1,0 2bf,5 3,0 30,4 10,0 60,4 1,0
    29a,4 5,0 72,5 3,0 1d,5 2,0 1e,5 e,0 12,5 e,0 37,5 7,0 8,5 1,0 2,5 b,0 7,4 1,0 1,5 3,0
    10,4 20,0 75,5 2,0 22,5 1,0 76,5 3,0 4,5 2,0 9,5 1,0 6,5 7,4 6,0 98,4 22,0 17,5 2,0 2,5
    3,0 38,5 1,0 1,5 9,0 1,5 1,0 2,5 8,0 6,5 d,0 30,5 54,0 30,5 1,0 1,5 5,0 1,5 1,0 5,5 1,0
    28,5 9,0 c,5 2,0 20,5 4,0 2,5 2,0 1,5 3,0 38,5 1,0 1,5 2,0 3,5 1,0 1,5 3,0 3a,5 8,0 2,5
    5,0 95,5 3,0 1,5 d,0 1,5 7,0 4,5 1,0 6,5 1,0 3,5 2,0 c6,5 41,0 20b,4 c4,5 34,4 4a,0 3c,4
    1ac,0 45,4 1a,0 1,4 316,0 1,4 153,0 100,4 330,0 b5,4 7,0 3,5 4,0 6,4 7,0 7f,5 1,0 60,5
    20,4 205,0 3,4 19,0 9,5 4,0 2,4 1,0 6,4 4,0 2,4 4,0 58,5 4,0 3,4 1,0 5a,4 1,0 c4,4 30,0
    1bd0,4 40,0 5690,4 40,0 13d,4 3,0 5f,5 4,4 1,5 a,4 3,0 1d,5 2,0 50,5 2,0 e,4 23,0 65,4 1,0
    79,5 1,0 3,5 1,0 4,5 1,0 19,5 2,0 1,4 4,5 4,0 8,4 8,0 34,4 c,0 44,5 a,0 12,5 12,0 d,5 1,0
    26,5 8,0 19,5 b,0 2e,5 3,0 30,5 1,0 2,5 4,0 2,5 2,0 27,5 1,0 43,5 6,0 2,5 2,0 2,5 b,0 3,5
    1,0 8,5 1,0 2f,5 1,0 33,5 1,0 1,5 3,0 2,5 2,0 5,5 2,0 1,5 1,0 2a,5 2,0 8,5 b,0 69,4 56,0
    25,5 1,0 2,5 1,0 4,5 3,0 4f2e,5 94,1 18c,4 52,1 3f,4 51,5 25,4 2e,1 18d,0 101,4 1,0 3e,4
    4d,0 3,4 40,0 2d,5 83,0 60,5 1,3 1f,0 76,5 a,0 480,1 11f,4 1,1 e1,5 f,1 28,5 8,1 a5,5 6,1
    4e,4 7,1 1e4,5 c,2 10,1 29,5 5,1 f2,2 20,1 2b,5 2,1 4d,5 6,1 46,5 b,1 31,5 4,1 7a,0 1,5
    1,0 36,5 f,0 b,4 14,0 a,5 1,0 2,5 2,0 a,5 3,0 31,5 4,0 2,5 2,0 7,5 e,0 30,5 3,0 24,5 5,0
    1,5 9,0 3d,5 1,0 c,5 2,0 34,5 9,0 a,5 4,0 2,5 1,0 5f,5 3,0 2,5 1,0 1,5 2,0 6,5 1,0 2,5
    3f,0 5f,5 1,0 3,5 d,0 10,5 2,0 39,5 2,0 3,5 1,0 25,5 1a,0 3b,5 7,0 c,5 3,0 1,5 1,0 e,5
    1f,0 38,5 8,0 2,5 3,0 1,5 1,0 17,5 1,0 54,5 6,0 1,5 1,0 4,5 2,0 1,5 2,0 ee,5 6,0 4,5 2,0
    1,5 2,0 1b,5 24,0 33,5 8,0 2,5 1,0 1,5 2,0 1f,4 20,0 2b,5 1,0 1,5 1,0 2,5 6,0 1,5 1,0 65,5
    3,0 2,5 4,0 1,5 9,0 ff,5 9,0 1,5 2,0 100,5 2,0 1,5 1,0 4,5 1,0 90,5 8,0 4,5 1,0 20,5 6,0
    2,5 2,0 28,5 6,0 2,5 4,0 8,5 9,0 1,5 6,0 2,5 3,0 2e,5 d,0 1,5 2,0 c6,5 1,0 1,5 3,0 1,5 1,0
    c9,5 e,0 54,5 17,0 1,5 7,0 1,5 2,0 1,5 4b,0 31,5 15,0 1,5 9,0 40,5 3,0 2,5 1,0 1,5 1,0
    15b,5 2,0 b,5 2,0 34,5 8,0 2,5 1,0 1,5 1,0 17,5 56,0 25,4 2a,0 1441,5 1,0 6,5 19,0 2cbe,5
    c,0 3,5 3,0 9c0,5 5,0 3b,5 7,0 418,5 1,0 3f,5 4,0 4f,4 1,0 1,5 c,0 4cad,5 2,0 f61,4 300,5
    50,0 217,5 3,0 11,5 8,0 2,5 7,0 1e,5 4,0 3b,4 59,5 3,4 7b,0 40,4 60,0 6a0,5 37,0 4,5 32,0
    8,5 1,0 e,5 1,0 16,5 465,0 100,5 100,0 30,5 7,0 177,5 12,0 2c,5 4,0 f,4 1d1,0 1c,5 4,0
    fe,5 2,0 f3,5 1,0 2,5 1,0 7,5 2,0 5,5 9,0 102,1 d0,5 52,1 22,5 7,1 5a5,4 260,0 1d,4 3,0
    3d,4 39,0 7a,4 da0,0"

inductive Direction where
  | left
  | right
  | arabicNumber
  | europeanNumber
  | neutral
  | mark
deriving DecidableEq, Repr

namespace Direction

def of (c : Char) : Direction :=
  match directions.valueAt c.toNat with
  | 1 => right
  | 2 => arabicNumber
  | 3 => europeanNumber
  | 4 => neutral
  | 5 => mark
  | _ => left

def isFromRight : Direction -> Bool
  | right => true
  | arabicNumber => true
  | _ => false

def followsLeft : Direction -> Bool
  | right => false
  | arabicNumber => false
  | _ => true

def endsLeft : Direction -> Bool
  | left => true
  | europeanNumber => true
  | _ => false

def followsRight : Direction -> Bool
  | left => false
  | _ => true

def endsRight : Direction -> Bool
  | left => false
  | neutral => false
  | mark => false
  | _ => true

/-- Whether a label keeps to one direction.  Marks at its end do not count. -/
def fit : List Direction -> Bool
  | [] => true
  | first :: rest =>
      let body := Text.dropEndWhile (· == mark) rest
      match first with
      | left => body.all followsLeft && body.getLast?.all endsLeft
      | right =>
          body.all followsRight && body.getLast?.all endsRight &&
            !(body.contains europeanNumber && body.contains arabicNumber)
      | _ => false

end Direction
end Idna
end HttpCall
