import SubmarineSwap.Hash.Sha256

namespace SubmarineSwap.Base58

open Bytes

def alphabet : List Char := "123456789ABCDEFGHJKLMNPQRSTUVWXYZabcdefghijkmnopqrstuvwxyz".toList

def digits (n : Nat) : List Nat :=
  if n = 0 then [] else digits (n / 58) ++ [n % 58]
termination_by n
decreasing_by omega

def bytesOf (n : Nat) : Bytes :=
  if n = 0 then [] else bytesOf (n / 256) ++ [(n % 256).toUInt8]
termination_by n
decreasing_by omega

def encode (bs : Bytes) : String :=
  let zeros := (bs.takeWhile (· == 0)).length
  String.ofList (List.replicate zeros '1' ++ (digits (toNatBE bs)).map fun d => alphabet.getD d '1')

def decode? (s : String) : Option Bytes := do
  let cs := s.toList
  let values ← cs.mapM fun c => alphabet.idxOf? c
  let zeros := (cs.takeWhile (· == '1')).length
  pure (List.replicate zeros 0 ++ bytesOf (values.foldl (fun acc d => acc * 58 + d) 0))

def checksum (payload : Bytes) : Bytes := (Hash.sha256d payload).take 4

def encodeCheck (payload : Bytes) : String := encode (payload ++ checksum payload)

def decodeCheck? (s : String) : Option Bytes := do
  let data ← decode? s
  guard (data.length ≥ 4)
  let payload := data.take (data.length - 4)
  guard (checksum payload == data.drop (data.length - 4))
  pure payload

end SubmarineSwap.Base58
