import Sam3x.Basic
import Sam3x.ChipId
import Sam3x.Target
import Sam3x.Probe
import Sam3x.Layout
import Sam3x.Link
import Sam3x.Port
import Sam3x.Flash
import Sam3x.Controller
import Sam3x.Gpnvm
import Sam3x.Refinement
import Sam3x.Session
