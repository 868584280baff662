import FormDialogue.Unicode.Name.Run

/-! # Names of syllables

The names of the scripts of South-East Asia, Hangul letters, Ethiopic, Cherokee and Canadian
syllables, and further Latin and Greek letters, in runs of their short form. -/

namespace FormDialogue.Unicode

def syllabaryNames : List NameRun := [
  ⟨0x1000, [
    "aMYANMAR LETTER KAcKHAcGAcGHAcNGAcCAcCHAcJAcJHAcNYAcNNYAcTTAcTTHAcDDAcDDHAcNNAcTAcTHAcDAcDHA",
    "cNAcPAcPHAcBAcBHAcMAcYAcRAcLAcWAcSAcHAcLLAcAcSHANncIcIIcUcUUcEcMONncOcAUbVOWEL SIGN TALL AA",
    "dndIdIIdUdUUdEdAIdMON IIeOdE ABOVEbSIGN ANUSVARAcDOT BELOWcVISARGAcVIRAMAcASAT",
    "bCONSONANT SIGN MEDIAL YAeRAeWAeHAbLETTER GREAT SAbDIGIT ZEROcONEcTWOcTHREEcFOURcFIVEcSIX",
    "cSEVENcEIGHTcNINEbSIGN LITTLE SECTIONcnbSYMBOL LOCATIVEcCOMPLETEDcAFOREMENTIONEDcGENITIVE",
    "bLETTER SHAcSSAcVOCALIC RdRRdLdLLbVOWEL SIGN VOCALIC ReRReLeLLbLETTER MON NGAdJHAdBBAdBBE",
    "bCONSONANT SIGN MON MEDIAL NAfMAfLAbLETTER SGAW KAREN SHAbVOWEL SIGN SGAW KAREN EU",
    "bTONE MARK SGAW KAREN HATHIfKE PHObLETTER WESTERN PWO KAREN THAfPWA",
    "bVOWEL SIGN WESTERN PWO KAREN EUgUEbSIGN WESTERN PWO KAREN TONE-1++++",
    "bLETTER EASTERN PWO KAREN NNAfYWAfGHWAbVOWEL SIGN GEBA KAREN IdKAYAH OEeUeEEbLETTER SHAN KA",
    "dKHAdGAdCAdZAdNYAdDAdNAdPHAdFAdBAdTHAdHAbCONSONANT SIGN SHAN MEDIAL WAbVOWEL SIGN SHAN AAeE",
    "fABOVEeFINAL YbSIGN SHAN TONE-2+dTONE-5+dCOUNCIL TONE-2+eEMPHATIC TONE",
    "bLETTER RUMAI PALAUNG FAbSIGN RUMAI PALAUNG TONE-5bSHAN DIGIT ZEROdONEdTWOdTHREEdFOURdFIVE",
    "dSIXdSEVENdEIGHTdNINEbSIGN KHAMTI TONE-1dTONE-3bVOWEL SIGN AITON AeAIbSYMBOL SHAN ONE",
    "dEXCLAMATIONaGEORGIAN CAPITAL LETTER ANdBANdGANdDONdENdVINdZENdTANdINdKANdLASdMANdNARdONdPAR",
    "dZHARdRAEdSANdTARdUNdPHARdKHARdGHANdQARdSHINdCHINdCANdJILdCILdCHARdXANdJHANdHAEdHEdHIEdWE",
    "dHARdHOE_dYN"]⟩,
  ⟨0x10CD, [
    "aGEORGIAN CAPITAL LETTER AEN__bLETTER ANcBANcGANcDONcENcVINcZENcTANcINcKANcLAScMANcNARcON",
    "cPARcZHARcRAEcSANcTARcUNcPHARcKHARcGHANcQARcSHINcCHINcCANcJILcCILcCHARcXANcJHANcHAEcHEcHIE",
    "cWEcHARcHOEcFIcYNcELIFIcTURNED GANcAINbPARAGRAPH SEPARATORaMODIFIER LETTER GEORGIAN NAR",
    "aGEORGIAN LETTER AENcHARD SIGNcLABIALnaHANGUL CHOSEONG KIYEOKcSSANGKIYEOKcNIEUNcTIKEUT",
    "cSSANGTIKEUTcRIEULcMIEUMcPIEUPcSSANGPIEUPcSIOScSSANGSIOScIEUNGcCIEUCcSSANGCIEUCcCHIEUCH",
    "cKHIEUKHcTHIEUTHcPHIEUPHcHIEUHcNIEUN-KIYEOKcSSANGNIEUNcNIEUN-TIKEUTcNIEUN-PIEUP",
    "cTIKEUT-KIYEOKcRIEUL-NIEUNcSSANGRIEULcRIEUL-HIEUHcKAPYEOUNRIEULcMIEUM-PIEUPcKAPYEOUNMIEUM",
    "cPIEUP-KIYEOKcPIEUP-NIEUNcPIEUP-TIKEUTcPIEUP-SIOScPIEUP-SIOS-KIYEOKcPIEUP-SIOS-TIKEUT",
    "cPIEUP-SIOS-PIEUPcPIEUP-SSANGSIOScPIEUP-SIOS-CIEUCcPIEUP-CIEUCcPIEUP-CHIEUCHcPIEUP-THIEUTH",
    "cPIEUP-PHIEUPHcKAPYEOUNPIEUPcKAPYEOUNSSANGPIEUPcSIOS-KIYEOKcSIOS-NIEUNcSIOS-TIKEUT",
    "cSIOS-RIEULcSIOS-MIEUMcSIOS-PIEUPcSIOS-PIEUP-KIYEOKcSIOS-SSANGSIOScSIOS-IEUNGcSIOS-CIEUC",
    "cSIOS-CHIEUCHcSIOS-KHIEUKHcSIOS-THIEUTHcSIOS-PHIEUPHcSIOS-HIEUHcCHITUEUMSIOS",
    "cCHITUEUMSSANGSIOScCEONGCHIEUMSIOScCEONGCHIEUMSSANGSIOScPANSIOScIEUNG-KIYEOKcIEUNG-TIKEUT",
    "cIEUNG-MIEUMcIEUNG-PIEUPcIEUNG-SIOScIEUNG-PANSIOScSSANGIEUNGcIEUNG-CIEUCcIEUNG-CHIEUCH",
    "cIEUNG-THIEUTHcIEUNG-PHIEUPHcYESIEUNGcCIEUC-IEUNGcCHITUEUMCIEUCcCHITUEUMSSANGCIEUC",
    "cCEONGCHIEUMCIEUCcCEONGCHIEUMSSANGCIEUCcCHIEUCH-KHIEUKHcCHIEUCH-HIEUHcCHITUEUMCHIEUCH",
    "cCEONGCHIEUMCHIEUCHcPHIEUPH-PIEUPcKAPYEOUNPHIEUPHcSSANGHIEUHcYEORINHIEUHcKIYEOK-TIKEUT",
    "cNIEUN-SIOScNIEUN-CIEUCcNIEUN-HIEUHcTIKEUT-RIEULcFILLERbJUNGSEONGncAcAEcYAcYAEcEOcEcYEOcYEcO",
    "cWAcWAEcOEcYOcUcWEOcWEcWIcYUcEUcYIcIcA-OcA-UcYA-OcYA-YOcEO-OcEO-UcEO-EUcYEO-OcYEO-UcO-EOcO-E",
    "cO-YEcO-OcO-UcYO-YAcYO-YAEcYO-YEOcYO-OcYO-IcU-AcU-AEcU-EO-EUcU-YEcU-UcYU-AcYU-EOcYU-EcYU-YEO",
    "cYU-YEcYU-UcYU-IcEU-UcEU-EUcYI-UcI-AcI-YAcI-OcI-UcI-EUcI-ARAEAcARAEAcARAEA-EOcARAEA-U",
    "cARAEA-IcSSANGARAEAcA-EUcYA-UcYEO-YAcO-YAcO-YAEbJONGSEONG KIYEOKcSSANGKIYEOKcKIYEOK-SIOS",
    "cNIEUNcNIEUN-CIEUCcNIEUN-HIEUHcTIKEUTcRIEULcRIEUL-KIYEOKcRIEUL-MIEUMcRIEUL-PIEUPcRIEUL-SIOS",
    "cRIEUL-THIEUTHcRIEUL-PHIEUPHcRIEUL-HIEUHcMIEUMcPIEUPcPIEUP-SIOScSIOScSSANGSIOScIEUNGcCIEUC",
    "cCHIEUCHcKHIEUKHcTHIEUTHcPHIEUPHcHIEUHcKIYEOK-RIEULcKIYEOK-SIOS-KIYEOKcNIEUN-KIYEOK",
    "cNIEUN-TIKEUTcNIEUN-SIOScNIEUN-PANSIOScNIEUN-THIEUTHcTIKEUT-KIYEOKcTIKEUT-RIEUL",
    "cRIEUL-KIYEOK-SIOScRIEUL-NIEUNcRIEUL-TIKEUTcRIEUL-TIKEUT-HIEUHcSSANGRIEULcRIEUL-MIEUM-KIYEOK",
    "cRIEUL-MIEUM-SIOScRIEUL-PIEUP-SIOScRIEUL-PIEUP-HIEUHcRIEUL-KAPYEOUNPIEUPcRIEUL-SSANGSIOS",
    "cRIEUL-PANSIOScRIEUL-KHIEUKHcRIEUL-YEORINHIEUHcMIEUM-KIYEOKcMIEUM-RIEULcMIEUM-PIEUP",
    "cMIEUM-SIOScMIEUM-SSANGSIOScMIEUM-PANSIOScMIEUM-CHIEUCHcMIEUM-HIEUHcKAPYEOUNMIEUM",
    "cPIEUP-RIEULcPIEUP-PHIEUPHcPIEUP-HIEUHcKAPYEOUNPIEUPcSIOS-KIYEOKcSIOS-TIKEUTcSIOS-RIEUL",
    "cSIOS-PIEUPcPANSIOScIEUNG-KIYEOKcIEUNG-SSANGKIYEOKcSSANGIEUNGcIEUNG-KHIEUKHcYESIEUNG",
    "cYESIEUNG-SIOScYESIEUNG-PANSIOScPHIEUPH-PIEUPcKAPYEOUNPHIEUPHcHIEUH-NIEUNcHIEUH-RIEUL",
    "cHIEUH-MIEUMcHIEUH-PIEUPcYEORINHIEUHcKIYEOK-NIEUNcKIYEOK-PIEUPcKIYEOK-CHIEUCHcKIYEOK-KHIEUKH",
    "cKIYEOK-HIEUHcSSANGNIEUNaETHIOPIC SYLLABLE HAcHUcHIcHAAcHEEcHEcHOcHOAcLAcLUcLIcLAAcLEEcLEcLO",
    "cLWAcHHAcHHUcHHIcHHAAcHHEEcHHEcHHOcHHWAcMAcMUcMIcMAAcMEEcMEcMOcMWAcSZAcSZUcSZIcSZAAcSZEEcSZE",
    "cSZOcSZWAcRAcRUcRIcRAAcREEcREcROcRWAcSAcSUcSIcSAAcSEEcSEcSOcSWAcSHAcSHUcSHIcSHAAcSHEEcSHE",
    "cSHOcSHWAcQAcQUcQIcQAAcQEEcQEcQOcQOAcQWA_cQWIcQWAAcQWEEcQWE__cQHAcQHUcQHIcQHAAcQHEEcQHEcQHO_",
    "cQHWA_cQHWIcQHWAAcQHWEEcQHWE__cBAcBUcBIcBAAcBEEcBEcBOcBWAcVAcVUcVIcVAAcVEEcVEcVOcVWAcTAcTU",
    "cTIcTAAcTEEcTEcTOcTWAcCAcCUcCIcCAAcCEEcCEcCOcCWAcXAcXUcXIcXAAcXEEcXEcXOcXOAcXWA_cXWIcXWAA",
    "cXWEEcXWE__cNAcNUcNIcNAAcNEEcNEcNOcNWAcNYAcNYUcNYIcNYAAcNYEEcNYEcNYOcNYWAcGLOTTAL AdUdIdAA",
    "dEEdEdOdWAcKAcKUcKIcKAAcKEEcKEcKOcKOAcKWA_cKWIcKWAAcKWEEcKWE__cKXAcKXUcKXIcKXAAcKXEEcKXEcKXO",
    "_cKXWA_cKXWIcKXWAAcKXWEEcKXWE__cWAcWUcWIcWAAcWEEcWEcWOcWOAcPHARYNGEAL AdUdIdAAdEEdEdO_cZAcZU",
    "cZIcZAAcZEEcZEcZOcZWAcZHAcZHUcZHIcZHAAcZHEEcZHEcZHOcZHWAcYAcYUcYIcYAAcYEEcYEcYOcYOAcDAcDUcDI",
    "cDAAcDEEcDEcDOcDWAcDDAcDDUcDDIcDDAAcDDEEcDDEcDDOcDDWAcJAcJUcJIcJAAcJEEcJEcJOcJWAcGAcGUcGI",
    "cGAAcGEEcGEcGOcGOAcGWA_cGWIcGWAAcGWEEcGWE__cGGAcGGUcGGIcGGAAcGGEEcGGEcGGOcGGWAAcTHAcTHUcTHI",
    "cTHAAcTHEEcTHEcTHOcTHWAcCHAcCHUcCHIcCHAAcCHEEcCHEcCHOcCHWAcPHAcPHUcPHIcPHAAcPHEEcPHEcPHO",
    "cPHWAcTSAcTSUcTSIcTSAAcTSEEcTSEcTSOcTSWAcTZAcTZUcTZIcTZAAcTZEEcTZEcTZOcTZOAcFAcFUcFIcFAAcFEE",
    "cFEcFOcFWAcPAcPUcPIcPAAcPEEcPEcPOcPWAcRYAcMYAcFYA__",
    "bCOMBINING GEMINATION AND VOWEL LENGTH MARKcpcGEMINATIONnbSECTIONnbWORDSPACEbFULL STOPbCOMMA",
    "bSEMICOLONbCOLONbPREFACEnbQUESTION MARKbPARAGRAPH SEPARATORbDIGIT ONEcTWOcTHREEcFOURcFIVE",
    "cSIXcSEVENcEIGHTcNINEbNUMBER TENcTWENTYcTHIRTYcFORTYcFIFTYcSIXTYcSEVENTYcEIGHTYcNINETY",
    "cHUNDREDcTEN THOUSAND___bSYLLABLE SEBATBEIT MWAcMWIcMWEEcMWEcSEBATBEIT BWAcBWIcBWEEcBWE",
    "cSEBATBEIT FWAcFWIcFWEEcFWEcSEBATBEIT PWAcPWIcPWEEcPWEbTONAL MARK YIZETdDERETdRIKRIKdSHORTn",
    "dDIFATdKENATdCHIRETdHIDETdDERET-HIDETdKURT"]⟩,
  ⟨0x13A0, [
    "aCHEROKEE LETTER AcEcIcOcUcVcGAcKAcGEcGIcGOcGUcGVcHAcHEcHIcHOcHUcHVcLAcLEcLIcLOcLUcLVcMAcME",
    "cMIcMOcMUcNAcHNAcNAHcNEcNIcNOcNUcNVcQUAcQUEcQUIcQUOcQUUcQUVcSAcScSEcSIcSOcSUcSVcDAcTAcDEcTE",
    "cDIcTIcDOcDUcDVcDLAcTLAcTLEcTLIcTLOcTLUcTLVcTSAcTSEcTSIcTSOcTSUcTSVcWAcWEcWIcWOcWUcWVcYAcYE",
    "cYIcYOcYUcYVcMV__bSMALL LETTER YEdYIdYOdYUdYVdMV__aCANADIAN SYLLABICS HYPHENcEcAAIcIcIIcOcOO",
    "cY-CREEncCARRIER EEdIcAcAAcWEcWEST-CREEncWIcWEST-CREEncWIIcWEST-CREEncWOcWEST-CREEncWOO",
    "cWEST-CREEncNASKAPIncWAcWEST-CREEncWAAcWEST-CREEncNASKAPIncAIcY-CREE WcGLOTTAL STOP",
    "cFINAL ACUTEdGRAVEdBOTTOM HALF RINGdTOPodRIGHTodndDOUBLE ACUTEeSHORT VERTICAL STROKES",
    "dMIDDLE DOTdSHORT HORIZONTAL STROKEdPLUSdDOWN TACKcENcINcONcANcPEcPAAIcPIcPIIcPOcPOOcY-CREEn",
    "cCARRIER HEEdHIcPAcPAAcPWEcWEST-CREEncPWIcWEST-CREEncPWIIcWEST-CREEncPWOcWEST-CREEncPWOO",
    "cWEST-CREEncPWAcWEST-CREEncPWAAcWEST-CREEncY-CREEncPcWEST-CREEncCARRIER HcTEcTAAIcTIcTIIcTO",
    "cTOOcY-CREEncCARRIER DEEdDIcTAcTAAcTWEcWEST-CREEncTWIcWEST-CREEncTWIIcWEST-CREEncTWO",
    "cWEST-CREEncTWOOcWEST-CREEncTWAcWEST-CREEncTWAAcWEST-CREEncNASKAPIncTcTTEcTTIcTTOcTTAcKE",
    "cKAAIcKIcKIIcKOcKOOcY-CREEncKAcKAAcKWEcWEST-CREEncKWIcWEST-CREEncKWIIcWEST-CREEncKWO",
    "cWEST-CREEncKWOOcWEST-CREEncKWAcWEST-CREEncKWAAcWEST-CREEncNASKAPIncKcKWcSOUTH-SLAVEY KEH",
    "dKIHdKOHdKAHcCEcCAAIcCIcCIIcCOcCOOcY-CREEncCAcCAAcCWEcWEST-CREEncCWIcWEST-CREEncCWII",
    "cWEST-CREEncCWOcWEST-CREEncCWOOcWEST-CREEncCWAcWEST-CREEncCWAAcWEST-CREEncNASKAPIncC",
    "cSAYISI THcMEcMAAIcMIcMIIcMOcMOOcY-CREEncMAcMAAcMWEcWEST-CREEncMWIcWEST-CREEncMWII",
    "cWEST-CREEncMWOcWEST-CREEncMWOOcWEST-CREEncMWAcWEST-CREEncMWAAcWEST-CREEncNASKAPIncM",
    "cWEST-CREEncMHcATHAPASCAN McSAYISIncNEcNAAIcNIcNIIcNOcNOOcY-CREEncNAcNAAcNWEcWEST-CREEncNWA",
    "cWEST-CREEncNWAAcWEST-CREEncNASKAPIncNcCARRIER NGcNHcLEcLAAIcLIcLIIcLOcLOOcY-CREEncLAcLAA",
    "cLWEcWEST-CREEncLWIcWEST-CREEncLWIIcWEST-CREEncLWOcWEST-CREEncLWOOcWEST-CREEncLWAcWEST-CREEn",
    "cLWAAcWEST-CREEncLcWEST-CREEncMEDIALncSEcSAAIcSIcSIIcSOcSOOcY-CREEncSAcSAAcSWEcWEST-CREEn",
    "cSWIcWEST-CREEncSWIIcWEST-CREEncSWOcWEST-CREEncSWOOcWEST-CREEncSWAcWEST-CREEncSWAA",
    "cWEST-CREEncNASKAPIncScATHAPASCANncSWcBLACKFOOT ScMOOSE-CREE SKcNASKAPI SKWdS-WdSPWAdSTWA",
    "dSKWAdSCWAcSHEcSHIcSHIIcSHOcSHOOcSHAcSHAAcSHWEcWEST-CREEncSHWIcWEST-CREEncSHWIIcWEST-CREEn",
    "cSHWOcWEST-CREEncSHWOOcWEST-CREEncSHWAcWEST-CREEncSHWAAcWEST-CREEncSHcYEcYAAIcYIcYIIcYOcYOO",
    "cY-CREEncYAcYAAcYWEcWEST-CREEncYWIcWEST-CREEncYWIIcWEST-CREEncYWOcWEST-CREEncYWOOcWEST-CREEn",
    "cYWAcWEST-CREEncYWAAcWEST-CREEncNASKAPIncYcBIBLE-CREEncWEST-CREEncSAYISI YIcREcR-CREEn",
    "cWEST-CREE LEcRAAIcRIcRIIcROcROOcWEST-CREE LOcRAcRAAcWEST-CREE LAcRWAAcWEST-CREEncR",
    "cWEST-CREEncMEDIALncFEcFAAIcFIcFIIcFOcFOOcFAcFAAcFWAAcWEST-CREEncFcTHEcN-CREEncTHIcN-CREEn",
    "cTHIIcN-CREEncTHOcTHOOcTHAcTHAAcTHWAAcWEST-CREEncTHcTTHEcTTHIcTTHOcTTHAcTTHcTYEcTYIcTYOcTYA",
    "cNUNAVIK HEdHIdHIIdHOdHOOdHAdHAAdHcNUNAVUTncHKcQAAIcQIcQIIcQOcQOOcQAcQAAcQcTLHEcTLHIcTLHO",
    "cTLHAcWEST-CREE REdRIdROdRAcNGAAIcNGIcNGIIcNGOcNGOOcNGAcNGAAcNGcNNGcSAYISI SHEdSHIdSHOdSHA",
    "cWOODS-CREE THEdTHIdTHOdTHAdTHcLHIcLHIIcLHOcLHOOcLHAcLHAAcLHcTH-CREE THEdTHIdTHIIdTHOdTHOO",
    "dTHAdTHAAdTHcAIVILIK BcBLACKFOOT EdIdOdAdWEdWIdWOdWAdNEdNIdNOdNAdKEdKIdKOdKAcSAYISI HEdHIdHO",
    "dHAcCARRIER GHUdGHOdGHEdGHEEdGHIdGHAdRUdROdREdREEdRIdRAdWUdWOdWEdWEEdWIdWAdHWUdHWOdHWEdHWEE",
    "dHWIdHWAdTHUdTHOdTHEdTHEEdTHIdTHAdTTUdTTOdTTEdTTEEdTTIdTTAdPUdPOdPEdPEEdPIdPAdPdGUdGOdGEdGEE",
    "dGIdGAdKHUdKHOdKHEdKHEEdKHIdKHAdKKUdKKOdKKEdKKEEdKKIdKKAdKKdNUdNOdNEdNEEdNIdNAdMUdMOdMEdMEE",
    "dMIdMAdYUdYOdYEdYEEdYIdYAdJUcSAYISIncCARRIER JOdJEdJEEdJIcSAYISIncCARRIER JAdJJUdJJOdJJE",
    "dJJEEdJJIdJJAdLUdLOdLEdLEEdLIdLAdDLUdDLOdDLEdDLEEdDLIdDLAdLHUdLHOdLHEdLHEEdLHIdLHAdTLHUdTLHO",
    "dTLHEdTLHEEdTLHIdTLHAdTLUdTLOdTLEdTLEEdTLIdTLAdZUdZOdZEdZEEdZIdZAdZdINITIALndDZUdDZOdDZE",
    "dDZEEdDZIdDZAdSUdSOdSEdSEEdSIdSAdSHUdSHOdSHEdSHEEdSHIdSHAdSHdTSUdTSOdTSEdTSEEdTSIdTSAdCHU",
    "dCHOdCHEdCHEEdCHIdCHAdTTSUdTTSOdTTSEdTTSEEdTTSIdTTSAcCHI SIGNcFULL STOPcQAIcNGAIcNNGIcNNGII",
    "cNNGOcNNGOOcNNGAcNNGAAcWOODS-CREE THWEEdTHWIdTHWIIdTHWOdTHWOOdTHWAdTHWAAdFINAL TH",
    "cBLACKFOOT WaOGHAM SPACE MARKbLETTER BEITHcLUIScFEARNcSAILcNIONcUATHcDAIRcTINNEcCOLLcCEIRT",
    "cMUINcGORTcNGEADALcSTRAIFcRUIScAILMcONNcURcEADHADHcIODHADHcEABHADHcORcUILLEANNcIFIN",
    "cEAMHANCHOLLcPEITHbFEATHER MARKbREVERSEDo___aRUNIC LETTER FEHU FEOH FE FcVcURUZ UR UcYRcYcW",
    "cTHURISAZ THURS THORNcETHcANSUZ AcOS OcAC AcAESCcLONG-BRANCH-OSS OcSHORT-TWIG-OSSncncOEcON",
    "cRAIDO RAD REID RcKAUNAcCENcKAUN KcGcENGcGEBO GYFU GcGARcWUNJO WYNN WcHAGLAZ HcHAEGLn",
    "cLONG-BRANCH-HAGALLncSHORT-TWIG-HAGALLncNAUDIZ NYD NAUD NcSHORT-TWIG-NAUDncDOTTED-N",
    "cISAZ IS ISS IcEcJERAN JcGERcLONG-BRANCH-AR AEcSHORT-TWIG-AR AcIWAZ EOHcPERTHO PEORTH P",
    "cALGIZ EOLHXcSOWILO ScSIGEL LONG-BRANCH-SOLncSHORT-TWIG-SOLncCcZcTIWAZ TIR TYR T",
    "cSHORT-TWIG-TYRncDcBERKANAN BEORC BJARKAN BcSHORT-TWIG-BJARKANncDOTTED-PcOPEN-PcEHWAZ EH E",
    "cMANNAZ MAN McLONG-BRANCH-MADRncSHORT-TWIG-MADRncLAUKAZ LAGU LOGR LcDOTTED-LcINGWAZcING",
    "cDAGAZ DAEG DcOTHALAN ETHEL OcEARcIORcCWEORTHcCALCcCEALCcSTANcLONG-BRANCH-YRcSHORT-TWIG-YR",
    "cICELANDIC-YRcQcXbSINGLE PUNCTUATIONbMULTIPLEnbCROSSnbARLAUG SYMBOLbTVIMADURnbBELGTHORn",
    "bLETTER KcSHcOOcFRANKS CASKET OSeISeEHeACeAESC"]⟩,
  ⟨0x1700, [
    "aTAGALOG LETTER AcIcUcKAcGAcNGAcTAcDAcNAcPAcBAcMAcYAcRAcLAcWAcSAcHAbVOWEL SIGN IdU",
    "bSIGN VIRAMAcPAMUDPOD"]⟩,
  ⟨0x171F, [
    "aTAGALOG LETTER ARCHAIC RAaHANUNOO LETTER AcIcUcKAcGAcNGAcTAcDAcNAcPAcBAcMAcYAcRAcLAcWAcSA",
    "cHAbVOWEL SIGN IdUbSIGN PAMUDPODaPHILIPPINE SINGLE PUNCTUATIONbDOUBLEn"]⟩,
  ⟨0x1740, [
    "aBUHID LETTER AcIcUcKAcGAcNGAcTAcDAcNAcPAcBAcMAcYAcRAcLAcWAcSAcHAbVOWEL SIGN IdU"]⟩,
  ⟨0x1760, [
    "aTAGBANWA LETTER AcIcUcKAcGAcNGAcTAcDAcNAcPAcBAcMAcYA_cLAcWAcSA_bVOWEL SIGN IdU"]⟩,
  ⟨0x1780, [
    "aKHMER LETTER KAcKHAcKOcKHOcNGOcCAcCHAcCOcCHOcNYOcDAcTTHAcDOcTTHOcNNOcTAcTHAcTOcTHOcNOcBA",
    "cPHAcPOcPHOcMOcYOcROcLOcVOcSHAcSSOcSAcHAcLAcQAbINDEPENDENT VOWEL QAQdQAAdQIdQIIdQUdQUKdQUU",
    "dQUUVdRYdRYYdLYdLYYdQEdQAIdQOO TYPE ONEfTWOdQAUbVOWEL INHERENT AQdAAcSIGNndIdIIdYdYYdUdUUdUA",
    "dOEdYAdIEdEdAEdAIdOOdAUbSIGN NIKAHITcREAHMUKcYUUKALEAPINTUcMUUSIKATOANcTRIISAPcBANTOCcROBAT",
    "cTOANDAKHIATcKAKABATcAHSDAcSAMYOK SANNYAcVIRIAMcCOENGcBATHAMASATcKHANcBARIYOOSAN",
    "cCAMNUC PII KUUHcLEK TOOcBEYYALcPHNAEK MUANcKOOMUUTbCURRENCY SYMBOL RIELbSIGN AVAKRAHASANYA",
    "cATTHACAN__bDIGIT ZEROcONEcTWOcTHREEcFOURcFIVEcSIXcSEVENcEIGHTcNINE"]⟩,
  ⟨0x17F0, [
    "aKHMER SYMBOL LEK ATTAK SONeMUOYePIIeBEIeBUONePRAMePRAM-MUOYePRAM-PIIePRAM-BEIePRAM-BUON"]⟩,
  ⟨0x1800, [
    "aMONGOLIAN BIRGAbELLIPSISbCOMMAbFULL STOPbCOLONbFOUR DOTSbTODO SOFT HYPHEN",
    "bSIBE SYLLABLE BOUNDARY MARKERbMANCHU COMMAcFULL STOPbNIRUGUbFREE VARIATION SELECTOR ONEeTWO",
    "eTHREEbVOWEL SEPARATORbFREE VARIATION SELECTOR FOURbDIGIT ZEROcONEcTWOcTHREEcFOURcFIVEcSIX",
    "cSEVENcEIGHTcNINE"]⟩,
  ⟨0x1820, [
    "aMONGOLIAN LETTER AcEcIcOcUcOEcUEcEEcNAcANGcBAcPAcQAcGAcMAcLAcSAcSHAcTAcDAcCHAcJAcYAcRAcWA",
    "cFAcKAcKHAcTSAcZAcHAAcZRAcLHAcZHIcCHIcTODO LONG VOWEL SIGNdEdIdOdUdOEdUEdANGdBAdPAdQAdGAdMA",
    "dTAdDAdCHAdJAdTSAdYAdWAdKAdGAAdHAAdJIAdNIAdDZAcSIBE EdIdIYdUEdUdANGdKAdGAdHAdPAdSHAdTAdDAdJA",
    "dFAdGAAdHAAdTSAdZAdRAAdCHAdZHAcMANCHU IdKAdRAdFAdZHAcCHA WITH TWO DOTS"]⟩,
  ⟨0x1880, [
    "aMONGOLIAN LETTER ALI GALI ANUSVARA ONEeVISARGAneDAMARUeUBADAMAeINVERTEDneBALUDAeTHREEneAeI",
    "eKAeNGAeCAeTTAeTTHAeDDAeNNAeTAeDAePAePHAeSSAeZHAeZAeAHcTODO ALI GALI TAfZHA",
    "cMANCHU ALI GALI GHAfNGAfCAfJHAfTTAfDDHAfTAfDHAfSSAfCYAfZHAfZAcALI GALI HALF UfYA",
    "cMANCHU ALI GALI BHAcALI GALI DAGALGAcMANCHU ALI GALI LHA"]⟩,
  ⟨0x18B0, [
    "aCANADIAN SYLLABICS OYcAYcAAYcWAYcPOYcPAYcPWOYcTAYcKAYcKWAYcMAYcNOYcNAYcLAYcSOYcSAYcSHOY",
    "cSHAYcSHWOYcYOYcYAYcRAYcNWIcOJIBWAYncNWIIcOJIBWAYncNWOcOJIBWAYncNWOOcOJIBWAYncRWEEcRWIcRWII",
    "cRWOcRWOOcRWAcOJIBWAY PdTdKdCdMdNdSdSHcEASTERN WcWESTERNncFINAL SMALL RINGdRAISED DOT",
    "cR-CREE RWEcWEST-CREE LOOdLAAcTHWEcTHWAcTTHWEcTTHOOcTTHAAcTLHWEcTLHOOcSAYISI SHWEdSHOOdHOO",
    "cCARRIER GWUdDENE GEEdGAAdGWAcSAYISI JUUcCARRIER JWAcBEAVER DENE LeRcCARRIER DENTAL S"]⟩,
  ⟨0x1900, [
    "aLIMBU VOWEL-CARRIER LETTERbLETTER KAcKHAcGAcGHAcNGAcCAcCHAcJAcJHAcYANcTAcTHAcDAcDHAcNAcPA",
    "cPHAcBAcBHAcMAcYAcRAcLAcWAcSHAcSSAcSAcHAcGYANcTRA_bVOWEL SIGN AdIdUdEEdAIdOOdAUdEdO",
    "bSUBJOINED LETTER YAdRAdWA"]⟩,
  ⟨0x1930, [
    "aLIMBU SMALL LETTER KAdNGAdANUSVARAdTAdNAdPAdMAdRAdLAbSIGN MUKPHRENGcKEMPHRENGcSA-I"]⟩,
  ⟨0x1940, [
    "aLIMBU SIGN LOO___bEXCLAMATION MARKbQUESTIONnbDIGIT ZEROcONEcTWOcTHREEcFOURcFIVEcSIXcSEVEN",
    "cEIGHTcNINEaTAI LE LETTER KAdXAdNGAdTSAdSAdYAdTAdTHAdLAdPAdPHAdMAdFAdVAdHAdQAdKHAdTSHAdNAdA",
    "dIdEEdEHdUdOOdOdUEdEdAUEdAI__dTONE-2++++"]⟩,
  ⟨0x1980, [
    "aNEW TAI LUE LETTER HIGH QAeLOWneHIGH KAfXAfNGAeLOW KAfXAfNGAeHIGH TSAfSAfYAeLOW TSAfSAfYA",
    "eHIGH TAfTHAfNAeLOW TAfTHAfNAeHIGH PAfPHAfMAeLOW PAfPHAfMAeHIGH FAfVAfLAeLOW FAfVAfLA",
    "eHIGH HAfDAfBAeLOW HAfDAfBAeHIGH KVAfXVAeLOW KVAfXVAeHIGH SUAeLOWn"]⟩,
  ⟨0x19B0, [
    "aNEW TAI LUE VOWEL SIGN VOWEL SHORTENERfAAfIIfUfUUfEfAEfOfOAfUEfAYfAAYfUYfOYfOAYfUEYfIY",
    "dLETTER FINAL VfNGfNfMfKfDfBdTONE MARK-1+"]⟩,
  ⟨0x19D0, [
    "aNEW TAI LUE DIGIT ZEROeONEeTWOeTHREEeFOUReFIVEeSIXeSEVENeEIGHTeNINEdTHAM DIGIT ONE___",
    "dSIGN LAEeLAEVaKHMER SYMBOL PATHAMASATcMUOY KOETcPIIncBEIncBUONncPRAMncPRAM-MUOYncPRAM-PIIn",
    "cPRAM-BEIncPRAM-BUONncDAPncDAP-MUOYncDAP-PIIncDAP-BEIncDAP-BUONncDAP-PRAMncTUTEYASAT",
    "cMUOY ROCcPIIncBEIncBUONncPRAMncPRAM-MUOYncPRAM-PIIncPRAM-BEIncPRAM-BUONncDAPncDAP-MUOYn",
    "cDAP-PIIncDAP-BEIncDAP-BUONncDAP-PRAMnaBUGINESE LETTER KAcGAcNGAcNGKAcPAcBAcMAcMPAcTAcDAcNA",
    "cNRAcCAcJAcNYAcNYCAcYAcRAcLAcVAcSAcAcHAbVOWEL SIGN IdUdEdOdAE__bPALLAWAbEND OF SECTION",
    "aTAI THAM LETTER HIGH KAeKHAeKXAdLOW KAeKXAeKHAdNGAdHIGH CAeCHAdLOW CAeSAeCHAdNYAdRATA",
    "dHIGH RATHAdDAdLOW RATHAdRANAdHIGH TAeTHAdLOW TAeTHAdNAdBAdHIGH PAePHAeFAdLOW PAeFAePHAdMA",
    "dLOW YAdHIGHndRAdRUEdLAdLUEdWAdHIGH SHAeSSAeSAeHAdLLAdAdLOW HAdIdIIdUdUUdEEdOOdLAEdGREAT SA",
    "cCONSONANT SIGN MEDIAL RAfLAeLA TANG LAIcSIGN MAI KANGncCONSONANT SIGN FINAL NGAeLOW PA",
    "eHIGH RATHA ORoeMAeBAeSA_cSIGN SAKOTcVOWEL SIGN AeMAI SATeAAeTALLneIeIIeUEeUUEeUeUUeO",
    "eOA BELOWeOYeEeAEeOOeAIeTHAMneOA ABOVEcSIGN MAI KANGdTONE-1+dKHUEN TONE-3++dRA HAAMdMAI SAM",
    "dKHUEN-LUE KARAN__cCOMBINING CRYPTOGRAMMIC DOTcHORA DIGIT ZEROeONEeTWOeTHREEeFOUReFIVEeSIX",
    "eSEVENeEIGHTeNINE"]⟩,
  ⟨0x1A90, [
    "aTAI THAM THAM DIGIT ZEROeONEeTWOeTHREEeFOUReFIVEeSIXeSEVENeEIGHTeNINE"]⟩,
  ⟨0x1AA0, [
    "aTAI THAM SIGN WIANGdWIANGWAAKdSAWANdKEOWdHOYdDOKMAIdREVERSED ROTATED RANAdMAI YAMOKdKAAN",
    "dKAANKUUdSATKAANdSATKAANKUUdHANGdCAANG__aCOMBINING DOUBLED CIRCUMFLEX ACCENTbDIAERESIS-RING",
    "bINFINITYbDOWNWARDS ARROWbTRIPLE DOTbX-X BELOWbWIGGLY LINEnbOPEN MARKnbDOUBLEp",
    "bLIGHT CENTRALIZATION STROKEnbSTRONGpbPARENTHESES ABOVEbDOUBLEobPARENTHESES BELOWcOVERLAY",
    "bLATIN SMALL LETTER W BELOWeTURNEDobLEFT PARENTHESIS ABOVE LEFT",
    "bRIGHT PARENTHESIS ABOVE RIGHTbLEFT PARENTHESIS BELOW LEFTbRIGHT PARENTHESIS BELOW RIGHT",
    "bSQUARE BRACKETS ABOVEbNUMBER SIGNnbINVERTED DOUBLE ARCHnbPLUS SIGNnbDOUBLEpeBELOW",
    "bTRIPLE ACUTE ACCENTbLATIN SMALL LETTER INSULAR GfRfT"]⟩,
  ⟨0x1B00, [
    "aBALINESE SIGN ULU RICEMdCANDRAcCECEKcSURANGcBISAHbLETTER AKARAdTEDUNGcIKARAdTEDUNGcUKARA",
    "dTEDUNGcRA REPAeTEDUNGcLA LENGAeTEDUNGcEKARAcAIKARAcOKARAdTEDUNGcKAdMAHAPRANAcGAdGORAcNGAcCA",
    "dLACAcJAdJERAcNYAcTA LATIKdMURDA MAHAPRANAcDA MURDA ALPAPRANAeMAHAPRANAcNA RAMBATcTAdTAWAcDA",
    "dMADUcNAcPAdKAPALcBAdKEMBANGcMAcYAcRAcLAcWAcSA SAGAdSAPAdcHAbSIGN REREKANbVOWEL SIGN TEDUNG",
    "dULUeSARIdSUKUeILUTdRA REPAfTEDUNGdLA LENGAfTEDUNGdTALINGeREPAeTEDUNGeREPAndPEPETeTEDUNG",
    "bADEG ADEGbLETTER KAF SASAKcKHOTncTZIRncEFncVEncZALncASYURAncARCHAIC JNYA___bDIGIT ZEROcONE",
    "cTWOcTHREEcFOURcFIVEcSIXcSEVENcEIGHTcNINEbPANTIbPAMADAbWINDUbCARIK PAMUNGKAHcSIKIcPAREREN",
    "bPAMENENGbMUSICAL SYMBOL DONGdDENGdDUNGdDANGeSURANGdDINGdDAENGdDEUNGdDAINGdDANG GEDE",
    "dCOMBINING TEGEHeENDEPeKEMPULeKEMPLIeJEGOGANeKEMPUL WITHneKEMPLIoeBENDEeGONG",
    "dRIGHT-HAND OPEN DUGfDAGeCLOSED TUKfTAKdLEFT-HAND OPEN PANGfPUNGeCLOSED PLAKfPLUKeOPEN PING",
    "bPANTI LANTANGbPAMADAn_aSUNDANESE SIGN PANYECEKcPANGLAYARcPANGWISADbLETTER AcIcUcAEcOcEcEU",
    "cKAcQAcGAcNGAcCAcJAcZAcNYAcTAcDAcNAcPAcFAcVAcBAcMAcYAcRAcLAcWAcSAcXAcHA",
    "bCONSONANT SIGN PAMINGKALdPANYAKRAdPANYIKUbVOWEL SIGN PANGHULUdPANYUKUdPANAELAENGdPANOLONG",
    "dPAMEPETdPANEULEUNGbSIGN PAMAAEHcVIRAMAbCONSONANT SIGN PASANGAN MAeWAbLETTER KHAcSYA",
    "bDIGIT ZEROcONEcTWOcTHREEcFOURcFIVEcSIXcSEVENcEIGHTcNINEbAVAGRAHAbLETTER REUcLEUcBHAcFINAL K",
    "dMaBATAK LETTER AcSIMALUNGUNncHAcSIMALUNGUNncMANDAILINGncBAcKAROncPAcSIMALUNGUNncNA",
    "cMANDAILINGncWAcSIMALUNGUNncPAKPAKncGAcSIMALUNGUNncJAcDAcRAcSIMALUNGUNncMAcSIMALUNGUNn",
    "cSOUTHERN TAcNORTHERNncSAcSIMALUNGUNncMANDAILINGncYAcSIMALUNGUNncNGAcLAcSIMALUNGUNncNYAcCA",
    "cNDAcMBAcIcUbSIGN TOMPIbVOWEL SIGN EdPAKPAKndEEdIdKAROndOdKAROndUeFOR SIMALUNGUN SA",
    "bCONSONANT SIGN NGdHbPANGOLATbPANONGONAN"]⟩,
  ⟨0x1BFC, [
    "aBATAK SYMBOL BINDU NA METEKdPINARBORASdJUDULdPANGOLATaLEPCHA LETTER KAcKLAcKHAcGAcGLAcNGA",
    "cCAcCHAcJAcNYAcTAcTHAcDAcNAcPAcPLAcPHAcFAcFLAcBAcBLAcMAcMLAcTSAcTSHAcDZAcYAcRAcLAcHAcHLAcVA",
    "cSAcSHAcWAcAbSUBJOINED LETTER YAdRAbVOWEL SIGN AAdIdOdOOdUdUUdEbCONSONANT SIGN KdMdLdNdPdRdT",
    "dNYIN-DOdKANGbSIGN RANcNUKTA___bPUNCTUATION TA-ROLcNYET THYOOMncCER-WAcTSHOOKndbDIGIT ZERO",
    "cONEcTWOcTHREEcFOURcFIVEcSIXcSEVENcEIGHTcNINE___bLETTER TTAcTTHAcDDAaOL CHIKI DIGIT ZEROdONE",
    "dTWOdTHREEdFOURdFIVEdSIXdSEVENdEIGHTdNINEcLETTER LAdATdAGdANGdALdLAAdAAKdAAJdAAMdAAWdLIdIS",
    "dIHdINYdIRdLUdUCdUDdUNNdUYdLEdEPdEDDdENdERRdLOdOTTdOBdOVdOHcMU TTUDDAGcGAAHLAA TTUDDAAG",
    "cMU-GAAHLAAncRELAAcPHAARKAAcAHADcPUNCTUATION MUCAADdDOUBLEnaCYRILLIC SMALL LETTER ROUNDED VE",
    "dLONG-LEGGED DEdNARROW OdWIDE ESdTALL TEdTHREE-LEGGEDndTALL HARD SIGNeYATdUNBLENDED UK"]⟩,
  ⟨0x1C90, [
    "aGEORGIAN MTAVRULI CAPITAL LETTER ANeBANeGANeDONeENeVINeZENeTANeINeKANeLASeMANeNAReONePAR",
    "eZHAReRAEeSANeTAReUNePHAReKHAReGHANeQAReSHINeCHINeCANeJILeCILeCHAReXANeJHANeHAEeHEeHIEeWE",
    "eHAReHOEeFIeYNeELIFIeTURNED GANeAIN__eAENeHARD SIGNeLABIALn",
    "aSUNDANESE PUNCTUATION BINDU SURYAdPANGLONGdPURNAMAdCAKRAdLEU SATANGAdKAndDAndBAn"]⟩,
  ⟨0x1CD0, [
    "aVEDIC TONE KARSHANAcSHARAcPRENKHAbSIGN NIHSHVASAcYAJURVEDIC MIDLINE SVARITA",
    "bTONE YAJURVEDIC AGGRAVATED INDEPENDENTndodKATHAKAocCANDRA BELOW",
    "cYAJURVEDIC KATHAKA INDEPENDENT SVARITA SCHROEDERcDOUBLE SVARITAcTRIPLEncKATHAKA ANUDATTA",
    "cDOT BELOWcTWO DOTSncTHREEocRIGVEDIC KASHMIRI INDEPENDENT SVARITAcATHARVAVEDICo",
    "bSIGN VISARGAndUDATTAcREVERSEDocVISARGA ANUDATTAcREVERSEDocVISARGA UDATTA WITH TAIL",
    "dANUDATTAocANUSVARA ANTARGOMUKHAdBAHIRGOMUKHAdVAMAGOMUKHAeWITH TAILcTIRYAK",
    "cHEXIFORM LONG ANUSVARAcocRTHANGocANUSVARA UBHAYATO MUKHAcARDHAVISARGAcROTATEDn",
    "bTONE CANDRA ABOVEbSIGN JIHVAMULIYAcUPADHMANIYAcATIKRAMAbTONE RING ABOVEcDOUBLEo",
    "bSIGN DOUBLE ANUSVARA ANTARGOMUKHA"]⟩,
  ⟨0x1D00, [
    "aLATIN LETTER SMALL CAPITAL AeAEbSMALL LETTER TURNEDnbLETTER SMALL CAPITAL BARRED BeCeDeETH",
    "eEbSMALL LETTER TURNED OPENneIbLETTER SMALL CAPITAL JeKeL WITH STROKEeMeREVERSED NeOeOPENn",
    "bSMALL LETTER SIDEWAYSneOPENneO WITH STROKEdTURNED OEbLETTER SMALL CAPITAL OU",
    "bSMALL LETTER TOP HALF OdBOTTOMobLETTER SMALL CAPITAL PeREVERSED ReTURNEDneTeU",
    "bSMALL LETTER SIDEWAYSneDIAERESIZEDneTURNED MbLETTER SMALL CAPITAL VeWeZeEZH",
    "cVOICED LARYNGEAL SPIRANTcAINaGREEK LETTER SMALL CAPITAL GAMMAeLAMDAePIeRHOePSI",
    "aCYRILLIC LETTER SMALL CAPITAL ELaMODIFIER LETTER CAPITAL AdAEdBdBARREDndDdEdREVERSEDndGdHdI",
    "dJdKdLdMdNdREVERSEDndOdOUdPdRdTdUdWcSMALL AdTURNEDndALPHAdTURNED AEdBdDdEdSCHWAdOPEN E",
    "dTURNEDodGdTURNED IdKdMdENGdOdOPENndTOP HALFndBOTTOModPdTdUdSIDEWAYSndTURNED MdVdAINdBETA",
    "dGREEK GAMMAdDELTAdGREEK PHIdCHIaLATIN SUBSCRIPT SMALL LETTER IeReUeV",
    "aGREEK SUBSCRIPT SMALL LETTER BETAeGAMMAeRHOePHIeCHIaLATIN SMALL LETTER UE",
    "dB WITH MIDDLE TILDEdDpdFpdMpdNpdPpdRpfFISHHOOK ANDodS WITHodTpdZpdTURNED G",
    "aMODIFIER LETTER CYRILLIC ENaLATIN SMALL LETTER INSULAR GdTH WITH STRIKETHROUGH",
    "cCAPITAL LETTER I WITH STROKEcLETTER IOTAodPocCAPITAL LETTER UocLETTER UPSILONo",
    "dB WITH PALATAL HOOKdDpdFpdGpdKpdLpdMpdNpdPpdRpdSpdESHpdVpdXpdZpdA WITH RETROFLEXndALPHAp",
    "dD WITH HOOK AND TAILdE WITH RETROFLEX HOOKdOPENqdREVERSEDrdSCHWApdIpdOPEN OpdESHpdUpdEZHp",
    "aMODIFIER LETTER SMALL TURNED ALPHAdCeWITH CURLdETHdREVERSED OPEN EdFdDOTLESS J WITH STROKE",
    "dSCRIPT GdTURNED HdI WITH STROKEdIOTAdCAPITAL IfWITH STROKEdJ WITH CROSSED-TAIL",
    "dL WITH RETROFLEX HOOKfPALATALndCAPITAL LdM WITH HOOKdTURNED M WITH LONG LEG",
    "dN WITH LEFT HOOKfRETROFLEXndCAPITAL NdBARRED OdPHIdS WITH HOOKdESHdT WITH PALATAL HOOK",
    "dU BARdUPSILONdCAPITAL UdV WITH HOOKdTURNED VdZeWITH RETROFLEX HOOKfCURLdEZHdTHETA",
    "aCOMBINING DOTTED GRAVE ACCENTcACUTEnbSNAKE BELOWbSUSPENSION MARKbMACRON-ACUTEbGRAVE-MACRON",
    "bMACRON-GRAVEbACUTE-MACRONbGRAVE-ACUTE-GRAVEbACUTE-GRAVE-ACUTEbLATIN SMALL LETTER R BELOW",
    "bBREVE-MACRONbMACRON-BREVEbDOUBLE CIRCUMFLEX ABOVEbOGONEKnbZIGZAG BELOWbISnbUR ABOVEbUSn",
    "bLATIN SMALL LETTER FLATTENED OPEN AneAEeAOeAVeC CEDILLAeINSULAR DeETHeG",
    "cLETTER SMALL CAPITALncSMALL LETTER KeLcLETTER SMALL CAPITALnfMcSMALL LETTER N",
    "cLETTER SMALL CAPITALnfRcSMALL LETTER R ROTUNDAeSeLONGneZeALPHAeBeBETAeSCHWAeF",
    "eL WITH DOUBLE MIDDLE TILDEeO WITH LIGHT CENTRALIZATION STROKEePeESH",
    "eU WITH LIGHT CENTRALIZATION STROKEeWeA WITH DIAERESISeOoeUobUP TACK ABOVE",
    "bKAVYKA ABOVE RIGHTdLEFTbDOTobWIDE INVERTED BRIDGE BELOWbDOT BELOW LEFTbDELETION MARK",
    "bDOUBLE INVERTED BREVE BELOWbALMOST EQUAL TOnbLEFT ARROWHEAD ABOVE",
    "bRIGHT ARROWHEAD AND DOWN ARROWHEAD BELOWaLATIN CAPITAL LETTER A WITH RINGnbSMALLr",
    "bCAPITAL LETTER B WITH DOT ABOVEbSMALLrbCAPITAL LETTER B WITH DOT BELOWbSMALLr",
    "bCAPITAL LETTER B WITH LINEnbSMALLrbCAPITAL LETTER C WITH CEDILLA AND ACUTEbSMALLs",
    "bCAPITAL LETTER D WITH DOT ABOVEbSMALLrbCAPITAL LETTER D WITH DOT BELOWbSMALLr",
    "bCAPITAL LETTER D WITH LINEnbSMALLrbCAPITAL LETTER D WITH CEDILLAbSMALLq",
    "bCAPITAL LETTER D WITH CIRCUMFLEX BELOWbSMALLrbCAPITAL LETTER E WITH MACRON AND GRAVEbSMALLs",
    "bCAPITAL LETTER E WITH MACRON AND ACUTEbSMALLsbCAPITAL LETTER E WITH CIRCUMFLEX BELOWbSMALLr",
    "bCAPITAL LETTER E WITH TILDEnbSMALLrbCAPITAL LETTER E WITH CEDILLA AND BREVEbSMALLs",
    "bCAPITAL LETTER F WITH DOT ABOVEbSMALLrbCAPITAL LETTER G WITH MACRONbSMALLq",
    "bCAPITAL LETTER H WITH DOT ABOVEbSMALLrbCAPITAL LETTER H WITH DOT BELOWbSMALLr",
    "bCAPITAL LETTER H WITH DIAERESISbSMALLqbCAPITAL LETTER H WITH CEDILLAbSMALLq",
    "bCAPITAL LETTER H WITH BREVE BELOWbSMALLrbCAPITAL LETTER I WITH TILDEnbSMALLr",
    "bCAPITAL LETTER I WITH DIAERESIS AND ACUTEbSMALLsbCAPITAL LETTER K WITHnbSMALLq",
    "bCAPITAL LETTER K WITH DOT BELOWbSMALLrbCAPITAL LETTER K WITH LINEnbSMALLr",
    "bCAPITAL LETTER L WITH DOTnbSMALLrbCAPITAL LETTER L WITH DOT BELOW AND MACRONbSMALLt",
    "bCAPITAL LETTER L WITH LINE BELOWbSMALLrbCAPITAL LETTER L WITH CIRCUMFLEXnbSMALLr",
    "bCAPITAL LETTER M WITH ACUTEbSMALLqbCAPITAL LETTER M WITH DOT ABOVEbSMALLr",
    "bCAPITAL LETTER M WITH DOT BELOWbSMALLrbCAPITAL LETTER N WITH DOT ABOVEbSMALLr",
    "bCAPITAL LETTER N WITH DOT BELOWbSMALLrbCAPITAL LETTER N WITH LINEnbSMALLr",
    "bCAPITAL LETTER N WITH CIRCUMFLEXnbSMALLrbCAPITAL LETTER O WITH TILDE AND ACUTEbSMALLs",
    "bCAPITAL LETTER O WITH TILDE AND DIAERESISbSMALLsbCAPITAL LETTER O WITH MACRON AND GRAVE",
    "bSMALLsbCAPITAL LETTER O WITH MACRON AND ACUTEbSMALLsbCAPITAL LETTER P WITHnbSMALLq",
    "bCAPITAL LETTER P WITH DOT ABOVEbSMALLrbCAPITAL LETTER RpbSMALLr",
    "bCAPITAL LETTER R WITH DOT BELOWbSMALLrbCAPITAL LETTER R WITH DOT BELOW AND MACRONbSMALLt",
    "bCAPITAL LETTER R WITH LINE BELOWbSMALLrbCAPITAL LETTER S WITH DOT ABOVEbSMALLr",
    "bCAPITAL LETTER S WITH DOT BELOWbSMALLrbCAPITAL LETTER S WITH ACUTE AND DOT ABOVEbSMALLt",
    "bCAPITAL LETTER S WITH CARONpbSMALLtbCAPITAL LETTER S WITH DOT BELOWpbSMALLu",
    "bCAPITAL LETTER T WITHobSMALLrbCAPITAL LETTER T WITH DOT BELOWbSMALLr",
    "bCAPITAL LETTER T WITH LINEnbSMALLrbCAPITAL LETTER T WITH CIRCUMFLEXnbSMALLr",
    "bCAPITAL LETTER U WITH DIAERESISnbSMALLrbCAPITAL LETTER U WITH TILDEnbSMALLr",
    "bCAPITAL LETTER U WITH CIRCUMFLEXnbSMALLrbCAPITAL LETTER U WITH TILDE AND ACUTEbSMALLs",
    "bCAPITAL LETTER U WITH MACRON AND DIAERESISbSMALLsbCAPITAL LETTER V WITH TILDEbSMALLq",
    "bCAPITAL LETTER V WITH DOT BELOWbSMALLrbCAPITAL LETTER W WITH GRAVEbSMALLq",
    "bCAPITAL LETTER W WITH ACUTEbSMALLqbCAPITAL LETTER W WITH DIAERESISbSMALLq",
    "bCAPITAL LETTER W WITH DOT ABOVEbSMALLrbCAPITAL LETTER W WITH DOT BELOWbSMALLr",
    "bCAPITAL LETTER X WITH DOT ABOVEbSMALLrbCAPITAL LETTER X WITH DIAERESISbSMALLq",
    "bCAPITAL LETTER Y WITH DOT ABOVEbSMALLrbCAPITAL LETTER Z WITH CIRCUMFLEXbSMALLq",
    "bCAPITAL LETTER Z WITH DOT BELOWbSMALLrbCAPITAL LETTER Z WITH LINEnbSMALLrdHp",
    "dT WITH DIAERESISdW WITH RING ABOVEdYpdA WITH RIGHT HALF RINGdLONG S WITH DOT ABOVE",
    "gDIAGONAL STROKEgHIGHnbCAPITAL LETTER SHARP SbSMALL LETTER DELTA",
    "bCAPITAL LETTER A WITH DOT BELOWbSMALLrbCAPITAL LETTER A WITH HOOK ABOVEbSMALLr",
    "bCAPITAL LETTER A WITH CIRCUMFLEX AND ACUTEbSMALLs",
    "bCAPITAL LETTER A WITH CIRCUMFLEX AND GRAVEbSMALLs",
    "bCAPITAL LETTER A WITH CIRCUMFLEX AND HOOK ABOVEbSMALLt",
    "bCAPITAL LETTER A WITH CIRCUMFLEX AND TILDEbSMALLs",
    "bCAPITAL LETTER A WITH CIRCUMFLEX AND DOT BELOWbSMALLtbCAPITAL LETTER A WITH BREVE AND ACUTE",
    "bSMALLsbCAPITAL LETTER A WITH BREVE AND GRAVEbSMALLs",
    "bCAPITAL LETTER A WITH BREVE AND HOOK ABOVEbSMALLtbCAPITAL LETTER A WITH BREVE AND TILDE",
    "bSMALLsbCAPITAL LETTER A WITH BREVE AND DOT BELOWbSMALLtbCAPITAL LETTER E WITHobSMALLr",
    "bCAPITAL LETTER E WITH HOOK ABOVEbSMALLrbCAPITAL LETTER E WITH TILDEbSMALLq",
    "bCAPITAL LETTER E WITH CIRCUMFLEX AND ACUTEbSMALLs",
    "bCAPITAL LETTER E WITH CIRCUMFLEX AND GRAVEbSMALLs",
    "bCAPITAL LETTER E WITH CIRCUMFLEX AND HOOK ABOVEbSMALLt",
    "bCAPITAL LETTER E WITH CIRCUMFLEX AND TILDEbSMALLs",
    "bCAPITAL LETTER E WITH CIRCUMFLEX AND DOT BELOWbSMALLtbCAPITAL LETTER I WITH HOOK ABOVE",
    "bSMALLrbCAPITAL LETTER I WITH DOT BELOWbSMALLrbCAPITAL LETTER OpbSMALLr",
    "bCAPITAL LETTER O WITH HOOK ABOVEbSMALLrbCAPITAL LETTER O WITH CIRCUMFLEX AND ACUTEbSMALLs",
    "bCAPITAL LETTER O WITH CIRCUMFLEX AND GRAVEbSMALLs",
    "bCAPITAL LETTER O WITH CIRCUMFLEX AND HOOK ABOVEbSMALLt",
    "bCAPITAL LETTER O WITH CIRCUMFLEX AND TILDEbSMALLs",
    "bCAPITAL LETTER O WITH CIRCUMFLEX AND DOT BELOWbSMALLtbCAPITAL LETTER O WITH HORN AND ACUTE",
    "bSMALLsbCAPITAL LETTER O WITH HORN AND GRAVEbSMALLs",
    "bCAPITAL LETTER O WITH HORN AND HOOK ABOVEbSMALLtbCAPITAL LETTER O WITH HORN AND TILDE",
    "bSMALLsbCAPITAL LETTER O WITH HORN AND DOT BELOWbSMALLtbCAPITAL LETTER U WITHobSMALLr",
    "bCAPITAL LETTER U WITH HOOK ABOVEbSMALLrbCAPITAL LETTER U WITH HORN AND ACUTEbSMALLs",
    "bCAPITAL LETTER U WITH HORN AND GRAVEbSMALLsbCAPITAL LETTER U WITH HORN AND HOOK ABOVE",
    "bSMALLtbCAPITAL LETTER U WITH HORN AND TILDEbSMALLsbCAPITAL LETTER U WITH HORN AND DOT BELOW",
    "bSMALLtbCAPITAL LETTER Y WITH GRAVEbSMALLqbCAPITAL LETTER Y WITH DOT BELOWbSMALLr",
    "bCAPITAL LETTER Y WITH HOOK ABOVEbSMALLrbCAPITAL LETTER Y WITH TILDEbSMALLq",
    "bCAPITAL LETTER MIDDLE-WELSH LLbSMALLpbCAPITAL LETTER MIDDLE-WELSH VbSMALLp",
    "bCAPITAL LETTER Y WITH LOOPbSMALLqaGREEK SMALL LETTER ALPHA WITH PSILIfDASIAfPSILI AND VARIA",
    "fDASIAofPSILI AND OXIAfDASIAofPSILI AND PERISPOMENIfDASIAobCAPITAL LETTER ALPHA WITH PSILI",
    "fDASIAfPSILI AND VARIAfDASIAofPSILI AND OXIAfDASIAofPSILI AND PERISPOMENIfDASIAo",
    "bSMALL LETTER EPSILON WITH PSILIfDASIAfPSILI AND VARIAfDASIAofPSILI AND OXIAfDASIAo__",
    "bCAPITAL LETTER EPSILON WITH PSILIfDASIAfPSILI AND VARIAfDASIAofPSILI AND OXIAfDASIAo__",
    "bSMALL LETTER ETA WITH PSILIfDASIAfPSILI AND VARIAfDASIAofPSILI AND OXIAfDASIAo",
    "fPSILI AND PERISPOMENIfDASIAobCAPITAL LETTER ETA WITH PSILIfDASIAfPSILI AND VARIAfDASIAo",
    "fPSILI AND OXIAfDASIAofPSILI AND PERISPOMENIfDASIAobSMALL LETTER IOTA WITH PSILIfDASIA",
    "fPSILI AND VARIAfDASIAofPSILI AND OXIAfDASIAofPSILI AND PERISPOMENIfDASIAo",
    "bCAPITAL LETTER IOTA WITH PSILIfDASIAfPSILI AND VARIAfDASIAofPSILI AND OXIAfDASIAo",
    "fPSILI AND PERISPOMENIfDASIAobSMALL LETTER OMICRON WITH PSILIfDASIAfPSILI AND VARIAfDASIAo",
    "fPSILI AND OXIAfDASIAo__bCAPITAL LETTER OMICRON WITH PSILIfDASIAfPSILI AND VARIAfDASIAo",
    "fPSILI AND OXIAfDASIAo__bSMALL LETTER UPSILON WITH PSILIfDASIAfPSILI AND VARIAfDASIAo",
    "fPSILI AND OXIAfDASIAofPSILI AND PERISPOMENIfDASIAo_bCAPITAL LETTER UPSILON WITH DASIA_",
    "gAND VARIA_hOXIA_hPERISPOMENIbSMALL LETTER OMEGA WITH PSILIfDASIAfPSILI AND VARIAfDASIAo",
    "fPSILI AND OXIAfDASIAofPSILI AND PERISPOMENIfDASIAobCAPITAL LETTER OMEGA WITH PSILIfDASIA",
    "fPSILI AND VARIAfDASIAofPSILI AND OXIAfDASIAofPSILI AND PERISPOMENIfDASIAo",
    "bSMALL LETTER ALPHA WITH VARIAfOXIAdEPSILON WITH VARIAfOXIAdETA WITH VARIAfOXIA",
    "dIOTA WITH VARIAfOXIAdOMICRON WITH VARIAfOXIAdUPSILON WITH VARIAfOXIAdOMEGA WITH VARIAfOXIA_",
    "_dALPHA WITH PSILI AND YPOGEGRAMMENIfDASIAofPSILI AND VARIAofDASIAqfPSILI AND OXIAofDASIAq",
    "fPSILI AND PERISPOMENIofDASIAqbCAPITAL LETTER ALPHA WITH PSILI AND PROSGEGRAMMENIfDASIAo",
    "fPSILI AND VARIAofDASIAqfPSILI AND OXIAofDASIAqfPSILI AND PERISPOMENIofDASIAq",
    "bSMALL LETTER ETA WITH PSILI AND YPOGEGRAMMENIfDASIAofPSILI AND VARIAofDASIAq",
    "fPSILI AND OXIAofDASIAqfPSILI AND PERISPOMENIofDASIAq",
    "bCAPITAL LETTER ETA WITH PSILI AND PROSGEGRAMMENIfDASIAofPSILI AND VARIAofDASIAq",
    "fPSILI AND OXIAofDASIAqfPSILI AND PERISPOMENIofDASIAq",
    "bSMALL LETTER OMEGA WITH PSILI AND YPOGEGRAMMENIfDASIAofPSILI AND VARIAofDASIAq",
    "fPSILI AND OXIAofDASIAqfPSILI AND PERISPOMENIofDASIAq",
    "bCAPITAL LETTER OMEGA WITH PSILI AND PROSGEGRAMMENIfDASIAofPSILI AND VARIAofDASIAq",
    "fPSILI AND OXIAofDASIAqfPSILI AND PERISPOMENIofDASIAqbSMALL LETTER ALPHA WITH VRACHYfMACRON",
    "fVARIA AND YPOGEGRAMMENIfnfOXIA ANDn_fPERISPOMENIgAND YPOGEGRAMMENI",
    "bCAPITAL LETTER ALPHA WITH VRACHYfMACRONfVARIAfOXIAfPROSGEGRAMMENIbKORONISbPROSGEGRAMMENI",
    "bPSILIbPERISPOMENIbDIALYTIKA ANDnbSMALL LETTER ETA WITH VARIA AND YPOGEGRAMMENIfnfOXIA ANDn_",
    "fPERISPOMENIgAND YPOGEGRAMMENIbCAPITAL LETTER EPSILON WITH VARIAfOXIAdETA WITH VARIAfOXIA",
    "fPROSGEGRAMMENIbPSILI AND VARIAdOXIAdPERISPOMENIbSMALL LETTER IOTA WITH VRACHYfMACRON",
    "fDIALYTIKA AND VARIAhOXIA__fPERISPOMENIfDIALYTIKA ANDnbCAPITAL LETTER IOTA WITH VRACHY",
    "fMACRONfVARIAfOXIA_bDASIA AND VARIAdOXIAdPERISPOMENIbSMALL LETTER UPSILON WITH VRACHYfMACRON",
    "fDIALYTIKA AND VARIAhOXIAdRHO WITH PSILIfDASIAdUPSILON WITH PERISPOMENIfDIALYTIKA ANDn",
    "bCAPITAL LETTER UPSILON WITH VRACHYfMACRONfVARIAfOXIAdRHO WITH DASIAbDIALYTIKA AND VARIA",
    "dOXIAbVARIA__bSMALL LETTER OMEGA WITH VARIA AND YPOGEGRAMMENIfnfOXIA ANDn_fPERISPOMENI",
    "gAND YPOGEGRAMMENIbCAPITAL LETTER OMICRON WITH VARIAfOXIAdOMEGA WITH VARIAfOXIA",
    "fPROSGEGRAMMENIbOXIAbDASIA_aEN QUADaEMnaEN SPACEaEMnaTHREE-PER-EMnaFOUR-PER-EMnaSIX-PER-EMn",
    "aFIGUREnaPUNCTUATIONnaTHINnaHAIRnaZERO WIDTHncNON-JOINERcJOINERaLEFT-TO-RIGHT MARK",
    "aRIGHT-TO-LEFTnaHYPHENaNON-BREAKINGnaFIGURE DASHaENnaEMnaHORIZONTAL BARaDOUBLE VERTICAL LINE",
    "bLOWnaLEFT SINGLE QUOTATION MARKaRIGHTpaSINGLE LOW-9obHIGH-REVERSED-9oaLEFT DOUBLEoaRIGHTp",
    "aDOUBLE LOW-9obHIGH-REVERSED-9oaDAGGERaDOUBLEnaBULLETaTRIANGULARnaONE DOT LEADERaTWOo",
    "aHORIZONTAL ELLIPSISaHYPHENATION POINTaLINE SEPARATORaPARAGRAPHnaLEFT-TO-RIGHT EMBEDDING",
    "aRIGHT-TO-LEFTnaPOP DIRECTIONAL FORMATTINGaLEFT-TO-RIGHT OVERRIDEaRIGHT-TO-LEFTn",
    "aNARROW NO-BREAK SPACEaPER MILLE SIGNbTEN THOUSANDnaPRIMEaDOUBLEnaTRIPLEnaREVERSEDnbDOUBLEn",
    "bTRIPLEnaCARETaSINGLE LEFT-POINTING ANGLE QUOTATION MARKbRIGHT-POINTINGpaREFERENCEn",
    "aDOUBLE EXCLAMATIONnaINTERROBANGaOVERLINEaUNDERTIEaCHARACTER TIEaCARET INSERTION POINT",
    "aASTERISMaHYPHEN BULLETaFRACTION SLASHaLEFT SQUARE BRACKET WITH QUILLaRIGHTq",
    "aDOUBLE QUESTION MARKaQUESTION EXCLAMATIONnaEXCLAMATION QUESTIONnaTIRONIAN SIGN ET",
    "aREVERSED PILCROW SIGNaBLACK LEFTWARDS BULLETbRIGHTWARDSnaLOW ASTERISKaREVERSED SEMICOLON",
    "aCLOSE UPaTWO ASTERISKS ALIGNED VERTICALLYaCOMMERCIAL MINUS SIGNaSWUNG DASH",
    "aINVERTED UNDERTIEaFLOWER PUNCTUATION MARKaTHREE DOT PUNCTUATIONaQUADRUPLE PRIME",
    "aFOUR DOT PUNCTUATIONaFIVEoaTWOoaFOUR DOT MARKaDOTTED CROSSaTRICOLONaVERTICAL FOUR DOTS",
    "aMEDIUM MATHEMATICAL SPACEaWORD JOINERaFUNCTION APPLICATIONaINVISIBLE TIMESbSEPARATORbPLUS_",
    "aLEFT-TO-RIGHT ISOLATEaRIGHT-TO-LEFTnaFIRST STRONGnaPOP DIRECTIONALn",
    "aINHIBIT SYMMETRIC SWAPPINGaACTIVATEoaINHIBIT ARABIC FORM SHAPINGaACTIVATEp",
    "aNATIONAL DIGIT SHAPESaNOMINALoaSUPERSCRIPT ZERObLATIN SMALL LETTER I__bFOURbFIVEbSIXbSEVEN",
    "bEIGHTbNINEbPLUS SIGNbMINUSbEQUALS SIGNbLEFT PARENTHESISbRIGHTnbLATIN SMALL LETTER N",
    "aSUBSCRIPT ZERObONEbTWObTHREEbFOURbFIVEbSIXbSEVENbEIGHTbNINEbPLUS SIGNbMINUSbEQUALS SIGN",
    "bLEFT PARENTHESISbRIGHTn_aLATIN SUBSCRIPT SMALL LETTER AeEeOeXeSCHWAeHeKeLeMeNePeSeT___",
    "aEURO-CURRENCY SIGNaCOLONnaCRUZEIROnaFRENCH FRANCnaLIRAnaMILLnaNAIRAnaPESETAnaRUPEEnaWONn",
    "aNEW SHEQELnaDONGnaEUROnaKIPnaTUGRIKnaDRACHMAnaGERMAN PENNYnaPESOnaGUARANInaAUSTRALn",
    "aHRYVNIAnaCEDInaLIVRE TOURNOISnaSPESMILOnaTENGEnaINDIAN RUPEEnaTURKISH LIRAnaNORDIC MARKn",
    "aMANATnaRUBLEnaLARInaBITCOINnaSOMn"]⟩]

end FormDialogue.Unicode
