import FormDialogue.Unicode.Name.Run

/-! # Names of ancient letters

The names of scripts that are no longer in common use, in runs of their short form. -/

namespace FormDialogue.Unicode

def ancientNames : List NameRun := [
  ⟨0x10080, [
    "aLINEAR B IDEOGRAM B100 MANdB102 WOMANdB104 DEERdB105 EQUIDdB105F MAREdB105M STALLION",
    "dB106F EWEdB106M RAMdB107F SHE-GOATdB107M HE-GOATdB108F SOWdB108M BOARdB109F COWdB109M BULL",
    "dB120 WHEATdB121 BARLEYdB122 OLIVEdB123 SPICEdB125 CYPERUScMONOGRAM B127 KAPOdB128 KANAKO",
    "cIDEOGRAM B130 OILdB131 WINEdB132cMONOGRAM B133 AREPAdB135 MERIcIDEOGRAM B140 BRONZE",
    "dB141 GOLDdB142dB145 WOOLdB146dB150dB151 HORNdB152++cMONOGRAM B156 TURO2cIDEOGRAM B157+",
    "dB159 CLOTHdB160+dB162 GARMENTdB163 ARMOURdB164++++++++dB173 MONTHdB174dB176 TREEdB177++++++",
    "++dB189+dB191 HELMETdB220 FOOTSTOOLdB225 BATHTUBdB230 SPEARdB231 ARROWdB232dB233 SWORDdB234",
    "dB236dB240 WHEELED CHARIOTdB241ndB242 CHARIOT FRAMEdB243 WHEELdB245+cMONOGRAM B247 DIPTE",
    "cIDEOGRAM B248+dB251++dB254 DARTdB255++++dVESSEL B155eB200+++++++++++++++++++eB221+eB226+++",
    "eB250eB305"]⟩,
  ⟨0x10100, [
    "aAEGEAN WORD SEPARATOR LINEdDOTbCHECK MARK"]⟩,
  ⟨0x10107, [
    "aAEGEAN NUMBER ONEcTWOcTHREEcFOURcFIVEcSIXcSEVENcEIGHTcNINEcTENcTWENTYcTHIRTYcFORTYcFIFTY",
    "cSIXTYcSEVENTYcEIGHTYcNINETYcONE HUNDREDcTWOncTHREEncFOURncFIVEncSIXncSEVENncEIGHTncNINEn",
    "cONE THOUSANDcTWOncTHREEncFOURncFIVEncSIXncSEVENncEIGHTncNINEncTENncTWENTYncTHIRTYncFORTYn",
    "cFIFTYncSIXTYncSEVENTYncEIGHTYncNINETYn___bWEIGHT BASE UNITcFIRST SUBUNITcSECONDncTHIRDn",
    "cFOURTHnbDRY MEASURE FIRSTnbLIQUIDpbMEASURE SECONDncTHIRDn",
    "aGREEK ACROPHONIC ATTIC ONE QUARTEReHALFeDRACHMAdFIVEdFIFTYdFIVE HUNDREDeTHOUSANDdFIFTYn",
    "dFIVE TALENTSdTENndFIFTYndONE HUNDREDndFIVEodONE THOUSANDndFIVEoeSTATERSdTENndFIFTYn",
    "dONE HUNDREDndFIVEodONE THOUSANDndTENodFIFTYodTEN MNAScHERAEUM ONE PLETHRONcTHESPIAN ONE",
    "cHERMIONIANncEPIDAUREAN TWOcTHESPIANncCYRENAIC TWO DRACHMAScEPIDAUREANocTROEZENIAN FIVEdTEN",
    "eALTERNATE FORMcHERMIONIAN TENcMESSENIANncTHESPIANndTHIRTYcTROEZENIAN FIFTYeALTERNATE FORM",
    "cHERMIONIAN FIFTYcTHESPIANndONE HUNDREDdTHREEncEPIDAUREAN FIVEncTROEZENIANocTHESPIANo",
    "cCARYSTIANocNAXIANocTHESPIAN ONE THOUSANDdFIVEncDELPHIC FIVE MNAScSTRATIAN FIFTYn",
    "bONE HALF SIGNeALTERNATE FORMbTWO THIRDS SIGNbTHREE QUARTERSnbYEARnbTALENTnbDRACHMAnbOBOLn",
    "bTWO OBOLSnbTHREEobFOURobFIVEobMETRETESnbKYATHOS BASEnbLITRAnbOUNKIAnbXESTESnbARTABEn",
    "bAROURAnbGRAMMAnbTRYBLION BASEnbZEROnbONE QUARTERnbSINUSOIDnbINDICTIONnaNOMISMAn_",
    "aROMAN SEXTANSnbUNCIAnbSEMUNCIAnbSEXTULAnbDIMIDIAobSILIQUAnbDENARIUSnbQUINARIUSnbSESTERTIUSn",
    "bDUPONDIUSnbASnbCENTURIALnaASCIA SYMBOL___aGREEK SYMBOL TAU RHO"]⟩,
  ⟨0x101D0, [
    "aPHAISTOS DISC SIGN PEDESTRIANdPLUMED HEADdTATTOOEDndCAPTIVEdCHILDdWOMANdHELMETdGAUNTLET",
    "dTIARAdARROWdBOWdSHIELDdCLUBdMANACLESdMATTOCKdSAWdLIDdBOOMERANGdCARPENTRY PLANEdDOLIUMdCOMB",
    "dSLINGdCOLUMNdBEEHIVEdSHIPdHORNdHIDEdBULLS LEGdCATdRAMdEAGLEdDOVEdTUNNYdBEEdPLANE TREEdVINE",
    "dPAPYRUSdROSETTEdLILYdOX BACKdFLUTEdGRATERdSTRAINERdSMALL AXEdWAVY BAND",
    "dCOMBINING OBLIQUE STROKE"]⟩,
  ⟨0x10280, [
    "aLYCIAN LETTER AcEcBcBHcGcDcIcWcZcTHcJcKcQcLcMcNcMMcNNcUcPcKKcRcScTcTTcANcENcHcX___",
    "aCARIAN LETTER AcP2cDcLcUUUcRcLDcA2cQcBcMcOcD2cTcSHcSH2cScC-18cUcNNcXcNcTT2cPcSScIcEcUUUUcK",
    "cK2cNDcUUcGcG2cSTcST2cNGcIIcC-39cTTcUUU2cRRcMBcMB2++cLD2cE2cUUU3"]⟩,
  ⟨0x102E0, [
    "aCOPTIC EPACT THOUSANDS MARKcDIGIT ONEdTWOdTHREEdFOURdFIVEdSIXdSEVENdEIGHTdNINEcNUMBER TEN",
    "dTWENTYdTHIRTYdFORTYdFIFTYdSIXTYdSEVENTYdEIGHTYdNINETYdONE HUNDREDdTWOndTHREEndFOURndFIVEn",
    "dSIXndSEVENndEIGHTndNINEn"]⟩,
  ⟨0x10300, [
    "aOLD ITALIC LETTER AdBEdKEdDEdEdVEdZEdHEdTHEdIdKAdELdEMdENdESHdOdPEdSHEdKUdERdESdTEdUdEKS",
    "dPHEdKHEdEFdERSdCHEdIIdUUdESScNUMERAL ONEdFIVEdTENdFIFTY"]⟩,
  ⟨0x1032D, [
    "aOLD ITALIC LETTER YEdNORTHERN TSEdSOUTHERNnaGOTHIC LETTER AHSAcBAIRKANcGIBAcDAGScAIHVUS",
    "cQAIRTHRAcIUJAcHAGLcTHIUTHcEIScKUSMAcLAGUScMANNAcNAUTHScJERcURUScPAIRTHRAcNINETYcRAIDAcSAUIL",
    "cTEIWScWINJAcFAIHUcIGGWScHWAIRcOTHALcNINE HUNDRED"]⟩,
  ⟨0x10350, [
    "aOLD PERMIC LETTER ANdBURdGAIdDOIdEdZHOIdDZHOIdZATAdDZITAdIdKOKEdLEIdMENOEdNENOEdVOOIdPEEI",
    "dREIdSIIdTAIdUdCHERYdSHOOIdSHCHOOIdYRYdYERUdOdOOdEFdHAdTSIUdVERdYERdYERIdYATdIEdYUdYAdIA",
    "aCOMBINING OLD PERMIC LETTER ANeDOIeZATAeNENOEeSII"]⟩,
  ⟨0x10380, [
    "aUGARITIC LETTER ALPAcBETAcGAMLAcKHAcDELTAcHOcWOcZETAcHOTAcTETcYODcKAFcSHINcLAMDAcMEMcDHAL",
    "cNUNcZUcSAMKAcAINcPUcSADEcQOPAcRASHAcTHANNAcGHAINcTOcIcUcSSU_bWORD DIVIDER",
    "aOLD PERSIAN SIGN AdIdUdKAdKUdGAdGUdXAdCAdJAdJIdTAdTUdDAdDIdDUdTHAdPAdBAdFAdNAdNUdMAdMIdMU",
    "dYAdVAdVIdRAdRUdLAdSAdZAdSHAdSSAdHA"]⟩,
  ⟨0x103C8, [
    "aOLD PERSIAN SIGN AURAMAZDAAdAURAMAZDAA-2dAURAMAZDAAHAdXSHAAYATHIYAdDAHYAAUSHdDAHYAAUSH-2",
    "dBAGAdBUUMISHcWORD DIVIDERcNUMBER ONEdTWOdTENdTWENTYdHUNDRED"]⟩,
  ⟨0x10400, [
    "aDESERET CAPITAL LETTER LONG IeEeAeAHeOeOOdSHORT IeEeAeAHeOeOOdAYdOWdWUdYEEdHdPEEdBEEdTEE",
    "dDEEdCHEEdJEEdKAYdGAYdEFdVEEdETHdTHEEdESdZEEdESHdZHEEdERdELdEMdENdENGdOIdEW",
    "bSMALL LETTER LONG IeEeAeAHeOeOOdSHORT IeEeAeAHeOeOOdAYdOWdWUdYEEdHdPEEdBEEdTEEdDEEdCHEEdJEE",
    "dKAYdGAYdEFdVEEdETHdTHEEdESdZEEdESHdZHEEdERdELdEMdENdENGdOIdEWaSHAVIAN LETTER PEEPcTOTcKICK",
    "cFEEcTHIGHcSOcSUREcCHURCHcYEAcHUNGcBIBcDEADcGAGcVOWcTHEYcZOOcMEASUREcJUDGEcWOEcHA-HAcLOLL",
    "cMIMEcIFcEGGcASHcADOcONcWOOLcOUTcAHcROARcNUNcEATcAGEcICEcUPcOAKcOOZEcOILcAWEcAREcORcAIRcERR",
    "cARRAYcEARcIANcYEWaOSMANYA LETTER ALEFcBAcTAcJAcXAcKHAcDEELcRAcSAcSHIINcDHAcCAYNcGAcFAcQAAF",
    "cKAAFcLAANcMIINcNUUNcWAWcHAcYAcAcEcIcOcUcAAcEEcOO__bDIGIT ZEROcONEcTWOcTHREEcFOURcFIVEcSIX",
    "cSEVENcEIGHTcNINE"]⟩,
  ⟨0x104B0, [
    "aOSAGE CAPITAL LETTER AdAIdAINdAHdBRAdCHAdEHCHAdEdEINdHAdHYAdIdKAdEHKAdKYAdLAdMAdNAdOdOINdPA",
    "dEHPAdSAdSHAdTAdEHTAdTSAdEHTSAdTSHAdDHAdUdWAdKHAdGHAdZAdZHA"]⟩,
  ⟨0x104D8, [
    "aOSAGE SMALL LETTER AdAIdAINdAHdBRAdCHAdEHCHAdEdEINdHAdHYAdIdKAdEHKAdKYAdLAdMAdNAdOdOINdPA",
    "dEHPAdSAdSHAdTAdEHTAdTSAdEHTSAdTSHAdDHAdUdWAdKHAdGHAdZAdZHA"]⟩,
  ⟨0x10500, [
    "aELBASAN LETTER AcBEcCEcCHEcDEcNDEcDHEcEIcEcFEcGEcGJEcHEcIcJEcKEcLEcLLEcMEcNEcNAcNJEcOcPEcQE",
    "cREcRREcSEcSHEcTEcTHEcUcVEcXEcYcZEcZHEcGHEcGHAMMAcKHE"]⟩,
  ⟨0x10530, [
    "aCAUCASIAN ALBANIAN LETTER ALTdBETdGIMdDATdEBdZARLdEYNdZHILdTASdCHAdYOWDdZHAdIRBdSHAdLAN",
    "dINYAdXEYNdDYANdCARdJHOXdKARdLYITdHEYTdQAYdAORdCHOYdCHIdCYAYdMAQdQARdNOWCdDZYAYdSHAKdJAYNdON",
    "dTYAYdFAMdDZAYdCHATdPENdGHEYSdRATdSEYKdVEYZdTIWRdSHOYdIWNdCYAWdCAYNdYAYDdPIWRdKIW"]⟩,
  ⟨0x1056F, [
    "aCAUCASIAN ALBANIAN CITATION MARKaVITHKUQI CAPITAL LETTER AdBBEdBEdCEdCHEdDEdDHEdEIdEdFEdGA_",
    "dHAdHHAdIdIJEdJEdKAdLAdLLAdMEdNEdNJEdOdPEdQAdRE_dSEdSHEdTEdTHEdUdVEdXE_dYdZE_bSMALL LETTER A",
    "dBBEdBEdCEdCHEdDEdDHEdEIdEdFEdGA_dHAdHHAdIdIJEdJEdKAdLAdLLAdMEdNEdNJEdOdPEdQAdRE_dSEdSHEdTE",
    "dTHEdUdVEdXE_dYdZE"]⟩,
  ⟨0x10600, [
    "aLINEAR A SIGN AB001++++++++++dAB013dAB016+dAB020+dAB021FdAB021MdAB022dAB022FdAB022MdAB023",
    "dAB023MdAB024dAB026++dA028BdAB029++dAB034dAB037++++dAB044+++++++dAB053++++++++dAB065++dAB069",
    "+dAB073+dAB076++++++dAB085++dA100-102dAB118dAB120dA120BdAB122+dAB131AdAB131BdA131CdAB164",
    "dAB171dAB180dAB188dAB191dA301+++++++dA309AdA309BdA309CdA310++dA313AdA313BdA313CdA314++++++++",
    "+++++++++++++++++++++++++++++++++++++++++++++++++dA400-VASdA401-VASdA402-VASdA403-VAS",
    "dA404-VASdA405-VASdA406-VASdA407-VASdA408-VASdA409-VASdA410-VASdA411-VASdA412-VASdA413-VAS",
    "dA414-VASdA415-VASdA416-VASdA417-VASdA418-VASdA501+++++dA508+++++dA515+dA520+dA523+++++++++",
    "dA534++++++++dA545dA547++++++++++dA559dA563+++dA568+++++++++++++++++++++dA591+dA594++dA598",
    "dA600++++dA606dA608++++++++++++++++dA626+++dA634dA637+dA640dA642++++dA648+",
    "dA651+++++++++++++"]⟩,
  ⟨0x10740, [
    "aLINEAR A SIGN A701 AdA702 BdA703 DdA704 EdA705 FdA706 HdA707 JdA708 KdA709 LdA709-2 L2",
    "dA709-3 L3dA709-4 L4dA709-6 L6dA710 WdA711 XdA712 YdA713 OMEGAdA714 ABBdA715 BBdA717 DD",
    "dA726 EYYYdA732 JE"]⟩,
  ⟨0x10760, [
    "aLINEAR A SIGN A800+++++++"]⟩,
  ⟨0x10780, [
    "aMODIFIER LETTER SMALL CAPITAL AAcSUPERSCRIPT TRIANGULAR COLONdHALFocSMALL AEdCAPITAL B",
    "dB WITH HOOK_dDZ DIGRAPHfWITH RETROFLEX HOOKgCURLdDEZH DIGRAPHdD WITH TAILfHOOKgAND TAIL",
    "dREVERSED EdCLOSED REVERSED OPENndFENG DIGRAPHdRAMS HORNdCAPITAL GdG WITH HOOKdCAPITALp",
    "dH WITH STROKEdCAPITAL HdHENG WITH HOOKdDOTLESS J WITH STROKE ANDndLS DIGRAPHdLZn",
    "dL WITH BELTdCAPITALpdL WITH RETROFLEX HOOK ANDndLEZHeWITH RETROFLEX HOOKdTURNED YfWITH BELT",
    "dO WITH STROKEdCAPITAL OEdCLOSED OMEGAdQdTURNED R WITH LONG LEGiAND RETROFLEX HOOK",
    "dR WITH TAILfFISHHOOKdCAPITAL RdTC DIGRAPH WITH CURLdTS DIGRAPHfWITH RETROFLEX HOOK",
    "dTESH DIGRAPHdT WITH RETROFLEX HOOKdV WITH RIGHTn_dCAPITAL YcGLOTTAL STOP WITH STROKE",
    "cREVERSEDqcBILABIAL CLICKcDENTALncLATERALncALVEOLARncRETROFLEX CLICK WITH RETROFLEX HOOK",
    "cSMALL S WITH CURL"]⟩,
  ⟨0x10800, [
    "aCYPRIOT SYLLABLE AcEcIcOcUcJA__cJO_cKAcKEcKIcKOcKUcLAcLEcLIcLOcLUcMAcMEcMIcMOcMUcNAcNEcNI",
    "cNOcNUcPAcPEcPIcPOcPUcRAcREcRIcROcRUcSAcSEcSIcSOcSUcTAcTEcTIcTOcTUcWAcWEcWIcWO_cXAcXE___cZA_",
    "_cZOaIMPERIAL ARAMAIC LETTER ALEPHdBETHdGIMELdDALETHdHEdWAWdZAYINdHETHdTETHdYODHdKAPHdLAMEDH",
    "dMEMdNUNdSAMEKHdAYINdPEdSADHEdQOPHdRESHdSHINdTAW_cSECTION SIGNcNUMBER ONEdTWOdTHREEdTEN",
    "dTWENTYdONE HUNDREDeTHOUSANDdTENnaPALMYRENE LETTER ALEPHcBETHcGIMELcDALETHcHEcWAWcZAYINcHETH",
    "cTETHcYODHcKAPHcLAMEDHcMEMcFINAL NUNcncSAMEKHcAYINcPEcSADHEcQOPHcRESHcSHINcTAW",
    "bLEFT-POINTING FLEURONbRIGHT-POINTINGnbNUMBER ONEcTWOcTHREEcFOURcFIVEcTENcTWENTY",
    "aNABATAEAN LETTER FINAL ALEPHcncFINAL BETHcncGIMELcDALETHcFINAL HEcncWAWcZAYINcHETHcTETH",
    "cFINAL YODHcncFINAL KAPHcncFINAL LAMEDHcncFINAL MEMcncFINAL NUNcncSAMEKHcAYINcPEcSADHEcQOPH",
    "cRESHcFINAL SHINcncTAW"]⟩,
  ⟨0x108A7, [
    "aNABATAEAN NUMBER ONEcTWOcTHREEcFOURbCRUCIFORMobNUMBER FIVEcTENcTWENTYcONE HUNDRED"]⟩,
  ⟨0x108E0, [
    "aHATRAN LETTER ALEPHcBETHcGIMELcDALETH-RESHcHEcWAWcZAYNcHETHcTETHcYODHcKAPHcLAMEDHcMEMcNUN",
    "cSAMEKHcAYNcPEcSADHEcQOPH_cSHINcTAW"]⟩,
  ⟨0x108FB, [
    "aHATRAN NUMBER ONEcFIVEcTENcTWENTYcONE HUNDREDaPHOENICIAN LETTER ALFcBETcGAMLcDELTcHEcWAU",
    "cZAIcHETcTETcYODcKAFcLAMDcMEMcNUNcSEMKcAINcPEcSADEcQOFcROSHcSHINcTAUbNUMBER ONEcTENcTWENTY",
    "cONE HUNDREDcTWOcTHREE___bWORD SEPARATORaLYDIAN LETTER AcBcGcDcEcVcIcYcKcLcMcNcOcRcSScTcUcF",
    "cQcScTTcANcENcLYcNNcC"]⟩,
  ⟨0x1093F, [
    "aLYDIAN TRIANGULAR MARK"]⟩,
  ⟨0x10980, [
    "aMEROITIC HIEROGLYPHIC LETTER AdEdIdOdYAdWAdBAdBA-2dPAdMAdNAdNA-2dNEdNE-2dRAdRA-2dLAdKHAdHHA",
    "dSAdSA-2dSEdKAdQAdTAdTA-2dTEdTE-2dTOdDAcSYMBOL VIDJdVIDJ-2bCURSIVE LETTER AdEdIdOdYAdWAdBA",
    "dPAdMAdNAdNEdRAdLAdKHAdHHAdSAdARCHAICndSEdKAdQAdTAdTEdTOdDA"]⟩,
  ⟨0x109BC, [
    "aMEROITIC CURSIVE FRACTION ELEVEN TWELFTHSdONE HALFcLOGOGRAM RMTdIMNcNUMBER ONEdTWOdTHREE",
    "dFOURdFIVEdSIXdSEVENdEIGHTdNINEdTENdTWENTYdTHIRTYdFORTYdFIFTYdSIXTYdSEVENTY__dONE HUNDRED",
    "dTWOndTHREEndFOURndFIVEndSIXndSEVENndEIGHTndNINEndONE THOUSANDdTWOndTHREEndFOURndFIVEndSIXn",
    "dSEVENndEIGHTndNINEndTENndTWENTYndTHIRTYndFORTYndFIFTYndSIXTYndSEVENTYndEIGHTYndNINETYn",
    "dONE HUNDREDndTWOodTHREEodFOURodFIVEodSIXodSEVENodEIGHTodNINEocFRACTION ONE TWELFTH",
    "dTWO TWELFTHSdTHREEndFOURndFIVEndSIXndSEVENndEIGHTndNINEndTENnaKHAROSHTHI LETTER A",
    "bVOWEL SIGN IdUdVOCALIC R_dEdO"]⟩,
  ⟨0x10A0C, [
    "aKHAROSHTHI VOWEL LENGTH MARKbSIGN DOUBLE RING BELOWcANUSVARAcVISARGAbLETTER KAcKHAcGAcGHA_",
    "cCAcCHAcJA_cNYAcTTAcTTHAcDDAcDDHAcNNAcTAcTHAcDAcDHAcNAcPAcPHAcBAcBHAcMAcYAcRAcLAcVAcSHAcSSA",
    "cSAcZAcHAcKKAcTTTHAcTTTAcVHA__bSIGN BAR ABOVEcCAUDAcDOT BELOW"]⟩,
  ⟨0x10A3F, [
    "aKHAROSHTHI VIRAMAbDIGIT ONEcTWOcTHREEcFOURbNUMBER TENcTWENTYcONE HUNDREDdTHOUSAND",
    "bFRACTION ONE HALF"]⟩,
  ⟨0x10A50, [
    "aKHAROSHTHI PUNCTUATION DOTcSMALL CIRCLEcncCRESCENT BARcMANGALAMcLOTUScDANDAcDOUBLEncLINES"]⟩,
  ⟨0x10A60, [
    "aOLD SOUTH ARABIAN LETTER HEeLAMEDHeHETHeMEMeQOPHeWAWeSHINeRESHeBETHeTAWeSATeKAPHeNUNeKHETH",
    "eSADHEeSAMEKHeFEeALEFeAYNeDHADHEeGIMELeDALETHeGHAYNeTETHeZAYNeDHALETHeYODHeTHAWeTHETH",
    "dNUMBER ONEeFIFTYdNUMERIC INDICATORbNORTH ARABIAN LETTER HEHeLAMeHAHeMEEMeQAFeWAWeES-2eREH",
    "eBEHeTEHeES-1eKAFeNOONeKHAHeSADeES-3eFEHeALEFeAINeDADeGEEMeDALeGHAINeTAHeZAINeTHALeYEHeTHEH",
    "eZAHdNUMBER ONEeTENeTWENTY"]⟩,
  ⟨0x10AC0, [
    "aMANICHAEAN LETTER ALEPHcBETHcBHETHcGIMELcGHIMELcDALETHcHEcWAWbSIGN UDbLETTER ZAYINcZHAYIN",
    "cJAYINcJHAYINcHETHcTETHcYODHcKAPHcXAPHcKHAPHcLAMEDHcDHAMEDHcTHAMEDHcMEMcNUNcSAMEKHcAYIN",
    "cAAYINcPEcFEcSADHEcQOPHcXOPHcQHOPHcRESHcSHINcSSHINcTAWbABBREVIATION MARK ABOVEdBELOW"]⟩,
  ⟨0x10AEB, [
    "aMANICHAEAN NUMBER ONEcFIVEcTENcTWENTYcONE HUNDREDbPUNCTUATION STARcFLEURON",
    "cDOUBLE DOT WITHIN DOTcpdcTWO DOTScLINE FILLER"]⟩,
  ⟨0x10B00, [
    "aAVESTAN LETTER AcAAcAOcAAOcANcAANcAEcAEEcEcEEcOcOOcIcIIcUcUUcKEcXEcXYEcXVEcGEcGGEcGHEcCEcJE",
    "cTEcTHEcDEcDHEcTTEcPEcFEcBEcBHEcNGEcNGYEcNGVEcNEcNYEcNNEcMEcHMEcYYEcYEcVEcREcLEcSEcZEcSHE",
    "cZHEcSHYEcSSHEcHE___bABBREVIATION MARKaTINY TWO DOTS OVER ONE DOT PUNCTUATIONaSMALLsaLARGEs",
    "bONE DOT OVER TWO DOTSnbTWO RINGS OVER ONE RINGnbONE RING OVER TWO RINGSn",
    "aINSCRIPTIONAL PARTHIAN LETTER ALEPHdBETHdGIMELdDALETHdHEdWAWdZAYINdHETHdTETHdYODHdKAPH",
    "dLAMEDHdMEMdNUNdSAMEKHdAYINdPEdSADHEdQOPHdRESHdSHINdTAW__cNUMBER ONEdTWOdTHREEdFOURdTEN",
    "dTWENTYdONE HUNDREDeTHOUSANDbPAHLAVI LETTER ALEPHdBETHdGIMELdDALETHdHEdWAW-AYIN-RESHdZAYIN",
    "dHETHdTETHdYODHdKAPHdLAMEDHdMEM-QOPHdNUNdSAMEKHdPEdSADHEdSHINdTAW"]⟩,
  ⟨0x10B78, [
    "aINSCRIPTIONAL PAHLAVI NUMBER ONEdTWOdTHREEdFOURdTENdTWENTYdONE HUNDREDeTHOUSAND",
    "aPSALTER PAHLAVI LETTER ALEPHdBETHdGIMELdDALETHdHEdWAW-AYIN-RESHdZAYINdHETHdYODHdKAPHdLAMEDH",
    "dMEM-QOPHdNUNdSAMEKHdPEdSADHEdSHINdTAW"]⟩,
  ⟨0x10B99, [
    "aPSALTER PAHLAVI SECTION MARKcTURNEDocFOUR DOTS WITH CROSSfDOT"]⟩,
  ⟨0x10BA9, [
    "aPSALTER PAHLAVI NUMBER ONEdTWOdTHREEdFOURdTENdTWENTYdONE HUNDRED"]⟩,
  ⟨0x10C00, [
    "aOLD TURKIC LETTER ORKHON AdYENISEIneAEdORKHON IdYENISEIneEdORKHON OeOEdYENISEIndORKHON AB",
    "dYENISEIndORKHON AEBdYENISEIndORKHON AGdYENISEIndORKHON AEGdYENISEIndORKHON ADdYENISEIn",
    "dORKHON AEDeEZdYENISEIndORKHON AYdYENISEIndORKHON AEYdYENISEIndORKHON AEKdYENISEIn",
    "dORKHON OEKdYENISEIndORKHON ALdYENISEIndORKHON AELeELTeEMeANeAENdYENISEIndORKHON ENT",
    "dYENISEIndORKHON ENCdYENISEIndORKHON ENYdYENISEIneANGdORKHON ENGdYENISEI AENGdORKHON EPeOP",
    "eICeECdYENISEIndORKHON AQdYENISEIndORKHON IQdYENISEIndORKHON OQdYENISEIndORKHON ARdYENISEIn",
    "dORKHON AEReASeAESeASHdYENISEIndORKHON ESHdYENISEIndORKHON ATdYENISEIndORKHON AETdYENISEIn",
    "dORKHON OTeBASH"]⟩,
  ⟨0x10C80, [
    "aOLD HUNGARIAN CAPITAL LETTER AeAAeEBeAMBeECeENCeECSeEDeANDeEeCLOSEneEEeEFeEGeEGYeEHeIeIIeEJ",
    "eEKeAKeUNKeELeELYeEMeENeENYeOeOOeNIKOLSBURG OEeRUDIMENTAneOEEeEPeEMPeEReSHORTneESeESZeETeENT",
    "eETYeECHeUeUUeNIKOLSBURG UEeRUDIMENTAneEVeEZeEZSeENT-SHAPED SIGNeUS"]⟩,
  ⟨0x10CC0, [
    "aOLD HUNGARIAN SMALL LETTER AeAAeEBeAMBeECeENCeECSeEDeANDeEeCLOSEneEEeEFeEGeEGYeEHeIeIIeEJ",
    "eEKeAKeUNKeELeELYeEMeENeENYeOeOOeNIKOLSBURG OEeRUDIMENTAneOEEeEPeEMPeEReSHORTneESeESZeETeENT",
    "eETYeECHeUeUUeNIKOLSBURG UEeRUDIMENTAneEVeEZeEZSeENT-SHAPED SIGNeUS"]⟩,
  ⟨0x10CFA, [
    "aOLD HUNGARIAN NUMBER ONEdFIVEdTENdFIFTYdONE HUNDREDeTHOUSANDaHANIFI ROHINGYA LETTER AdBAdPA",
    "dTAdTTAdJAdCAdHAdKHAdFAdDAdDDAdRAdRRAdZAdSAdSHAdKAdGAdLAdMAdNAdWAdKINNAndYAdKINNAndNGAdNYA",
    "dVAcVOWEL AdIdUdEdOcMARK SAKINdNA KHONNAcSIGN HARBAHAYdTAHALAdTANAdTASSI"]⟩,
  ⟨0x10D30, [
    "aHANIFI ROHINGYA DIGIT ZEROdONEdTWOdTHREEdFOURdFIVEdSIXdSEVENdEIGHTdNINE"]⟩,
  ⟨0x10E60, [
    "aRUMI DIGIT ONEcTWOcTHREEcFOURcFIVEcSIXcSEVENcEIGHTcNINEbNUMBER TENcTWENTYcTHIRTYcFORTY",
    "cFIFTYcSIXTYcSEVENTYcEIGHTYcNINETYcONE HUNDREDcTWOncTHREEncFOURncFIVEncSIXncSEVENncEIGHTn",
    "cNINEnbFRACTION ONE HALFdQUARTERdTHIRDcTWO THIRDS_aYEZIDI LETTER ELIFcBEcPEcPHEcTHEcSEcCIM",
    "cCHIMcCHHIMcHHAcXAcDALcZALcRAcRHAcZAcJAcSINcSHINcSADcDADcTAcZEcEYNcXHEYNcFAcVA",
    "dALTERNATE FORMcQAFcKAFcKHAFcGAFcLAMcMIMcNUNcUMcWAWcOWcEWcHAYcYOTcET_bCOMBINING HAMZA MARK",
    "cMADDAnbHYPHENATIONn__bLETTER LAM WITH DOT ABOVEcYOT WITH CIRCUMFLEXn"]⟩,
  ⟨0x10F00, [
    "aOLD SOGDIAN LETTER ALEPHdFINALndBETHdFINALndGIMELdHEdFINALndWAWdZAYINdHETHdYODHdKAPHdLAMEDH",
    "dMEMdNUNdFINALnfWITH VERTICAL TAILdSAMEKHdAYINdALTERNATEndPEdSADHEdFINALnfWITH VERTICAL TAIL",
    "dRESH-AYIN-DALETHdSHINdTAWdFINALnfWITH VERTICAL TAILcNUMBER ONEdTWOdTHREEdFOURdFIVEdTEN",
    "dTWENTYdTHIRTYdONE HUNDREDcFRACTION ONE HALFcLIGATURE AYIN-DALETH"]⟩,
  ⟨0x10F30, [
    "aSOGDIAN LETTER ALEPHcBETHcGIMELcHEcWAWcZAYINcHETHcYODHcKAPHcLAMEDHcMEMcNUNcSAMEKHcAYINcPE",
    "cSADHEcRESH-AYINcSHINcTAWcFETHcLESHbINDEPENDENT SHINbCOMBINING DOT BELOWcTWO DOTSncDOT ABOVE",
    "cTWO DOTSncCURVEndBELOWcHOOK ABOVEdBELOWcLONGocRESHncSTROKEnbNUMBER ONEcTENcTWENTY",
    "cONE HUNDREDbPUNCTUATION TWO VERTICAL BARSfWITH DOTScCIRCLE WITH DOTcTWO CIRCLES WITH DOTS",
    "cHALF CIRCLE WITH DOT"]⟩,
  ⟨0x10F70, [
    "aOLD UYGHUR LETTER ALEPHdBETHdGIMEL-HETHdWAWdZAYINdFINAL HETHdYODHdKAPHdLAMEDHdMEMdNUN",
    "dSAMEKHdPEdSADHEdRESHdSHINdTAWdLESHcCOMBINING DOT ABOVEeBELOWdTWO DOTS ABOVEfBELOW",
    "cPUNCTUATION BARdTWO BARSeDOTSdFOURn"]⟩,
  ⟨0x10FB0, [
    "aCHORASMIAN LETTER ALEPHcSMALLncBETHcGIMELcDALETHcHEcWAWcCURLEDncZAYINcHETHcYODHcKAPHcLAMEDH",
    "cMEMcNUNcSAMEKHcAYINcPEcRESHcSHINcTAWbNUMBER ONEcTWOcTHREEcFOURcTENcTWENTYcONE HUNDRED"]⟩,
  ⟨0x10FE0, [
    "aELYMAIC LETTER ALEPHcBETHcGIMELcDALETHcHEcWAWcZAYINcHETHcTETHcYODHcKAPHcLAMEDHcMEMcNUN",
    "cSAMEKHcAYINcPEcSADHEcQOPHcRESHcSHINcTAWbLIGATURE ZAYIN-YODH"]⟩,
  ⟨0x11000, [
    "aBRAHMI SIGN CANDRABINDUcANUSVARAcVISARGAcJIHVAMULIYAcUPADHMANIYAbLETTER AcAAcIcIIcUcUU",
    "cVOCALIC RdRRdLdLLcEcAIcOcAUcKAcKHAcGAcGHAcNGAcCAcCHAcJAcJHAcNYAcTTAcTTHAcDDAcDDHAcNNAcTA",
    "cTHAcDAcDHAcNAcPAcPHAcBAcBHAcMAcYAcRAcLAcVAcSHAcSSAcSAcHAcLLAcOLD TAMIL LLLAeRRAeNNNA",
    "bVOWEL SIGN AAdBHATTIPROLUndIdIIdUdUUdVOCALIC ReRReLeLLdEdAIdOdAUbVIRAMAbDANDAbDOUBLEn",
    "bPUNCTUATION DOTcDOUBLEncLINEcCRESCENT BARcLOTUS"]⟩,
  ⟨0x11052, [
    "aBRAHMI NUMBER ONEcTWOcTHREEcFOURcFIVEcSIXcSEVENcEIGHTcNINEcTENcTWENTYcTHIRTYcFORTYcFIFTY",
    "cSIXTYcSEVENTYcEIGHTYcNINETYcONE HUNDREDdTHOUSANDbDIGIT ZEROcONEcTWOcTHREEcFOURcFIVEcSIX",
    "cSEVENcEIGHTcNINEbSIGN OLD TAMIL VIRAMAbLETTER OLD TAMIL SHORT EfO",
    "bVOWEL SIGN OLD TAMIL SHORT EgObLETTER OLD TAMIL LLA"]⟩,
  ⟨0x1107F, [
    "aBRAHMI NUMBER JOINERaKAITHI SIGN CANDRABINDUcANUSVARAcVISARGAbLETTER AcAAcIcIIcUcUUcEcAIcO",
    "cAUcKAcKHAcGAcGHAcNGAcCAcCHAcJAcJHAcNYAcTTAcTTHAcDDAcDDDHAcDDHAcRHAcNNAcTAcTHAcDAcDHAcNAcPA",
    "cPHAcBAcBHAcMAcYAcRAcLAcVAcSHAcSSAcSAcHAbVOWEL SIGN AAdIdIIdUdUUdEdAIdOdAUbSIGN VIRAMAcNUKTA",
    "bABBREVIATION SIGNbENUMERATIONnbNUMBERnbSECTION MARKbDOUBLEobDANDAbDOUBLEn",
    "bVOWEL SIGN VOCALIC R"]⟩,
  ⟨0x110CD, [
    "aKAITHI NUMBER SIGN ABOVE__aSORA SOMPENG LETTER SAHdTAHdBAHdCAHdDAHdGAHdMAHdNGAHdLAHdNAHdVAH",
    "dPAHdYAHdRAHdHAHdKAHdJAHdNYAHdAHdEEHdIHdUHdOHdEHdMAE"]⟩,
  ⟨0x110F0, [
    "aSORA SOMPENG DIGIT ZEROdONEdTWOdTHREEdFOURdFIVEdSIXdSEVENdEIGHTdNINE"]⟩,
  ⟨0x11100, [
    "aCHAKMA SIGN CANDRABINDUcANUSVARAcVISARGAbLETTER AAcIcUcEcKAAcKHAAcGAAcGHAAcNGAAcCAAcCHAA",
    "cJAAcJHAAcNYAAcTTAAcTTHAAcDDAAcDDHAAcNNAAcTAAcTHAAcDAAcDHAAcNAAcPAAcPHAAcBAAcBHAAcMAAcYYAA",
    "cYAAcRAAcLAAcWAAcSAAcHAAbVOWEL SIGN AdIdIIdUdUUdEdAIdOdAUdOIbO MARKbAUnbVIRAMAbMAAYYAA_",
    "bDIGIT ZEROcONEcTWOcTHREEcFOURcFIVEcSIXcSEVENcEIGHTcNINEbSECTION MARKbDANDAbDOUBLEn",
    "bQUESTION MARKbLETTER LHAAbVOWEL SIGN AAdEIbLETTER VAA"]⟩,
  ⟨0x11150, [
    "aMAHAJANI LETTER AcIcUcEcOcKAcKHAcGAcGHAcCAcCHAcJAcJHAcNYAcTTAcTTHAcDDAcDDHAcNNAcTAcTHAcDA",
    "cDHAcNAcPAcPHAcBAcBHAcMAcRAcLAcVAcSAcHAcRRAbSIGN NUKTAbABBREVIATION SIGNbSECTION MARK",
    "bLIGATURE SHRI"]⟩,
  ⟨0x11180, [
    "aSHARADA SIGN CANDRABINDUcANUSVARAcVISARGAbLETTER AcAAcIcIIcUcUUcVOCALIC RdRRdLdLLcEcAIcOcAU",
    "cKAcKHAcGAcGHAcNGAcCAcCHAcJAcJHAcNYAcTTAcTTHAcDDAcDDHAcNNAcTAcTHAcDAcDHAcNAcPAcPHAcBAcBHAcMA",
    "cYAcRAcLAcLLAcVAcSHAcSSAcSAcHAbVOWEL SIGN AAdIdIIdUdUUdVOCALIC ReRReLeLLdEdAIdOdAU",
    "bSIGN VIRAMAcAVAGRAHAcJIHVAMULIYAcUPADHMANIYAbOMbDANDAbDOUBLEnbABBREVIATION SIGNbSEPARATOR",
    "bSANDHI MARKbSIGN NUKTAbVOWEL MODIFIER MARKbEXTRA SHORT VOWELnbSUTRAn",
    "bVOWEL SIGN PRISHTHAMATRA EbSIGN INVERTED CANDRABINDUbDIGIT ZEROcONEcTWOcTHREEcFOURcFIVEcSIX",
    "cSEVENcEIGHTcNINEbEKAMbSIGN SIDDHAMbHEADSTROKEbCONTINUATION SIGNbSECTION MARK-1+_",
    "aSINHALA ARCHAIC DIGIT ONEdTWOdTHREEdFOURdFIVEdSIXdSEVENdEIGHTdNINEcNUMBER TENdTWENTYdTHIRTY",
    "dFORTYdFIFTYdSIXTYdSEVENTYdEIGHTYdNINETYdONE HUNDREDeTHOUSAND"]⟩,
  ⟨0x11200, [
    "aKHOJKI LETTER AcAAcIcUcEcAIcOcAUcKAcKHAcGAcGGAcGHAcNGAcCAcCHAcJAcJJA_cNYAcTTAcTTHAcDDAcDDHA",
    "cNNAcTAcTHAcDAcDDDAcDHAcNAcPAcPHAcBAcBBAcBHAcMAcYAcRAcLAcVAcSAcHAcLLAbVOWEL SIGN AAdIdIIdUdE",
    "dAIdOdAUbSIGN ANUSVARAcVIRAMAcNUKTAcSHADDAbDANDAbDOUBLEnbWORD SEPARATORbSECTION MARKbDOUBLEo",
    "bABBREVIATION SIGNbSIGN SUKUN"]⟩,
  ⟨0x11280, [
    "aMULTANI LETTER AcIcUcEcKAcKHAcGA_cGHA_cCAcCHAcJAcJJA_cNYAcTTAcTTHAcDDAcDDDAcDDHAcNNAcTAcTHA",
    "cDAcDHAcNAcPAcPHAcBA_cBHAcMAcYAcRAcLAcVAcSAcHAcRRAcRHAbSECTION MARK"]⟩,
  ⟨0x112B0, [
    "aKHUDAWADI LETTER AcAAcIcIIcUcUUcEcAIcOcAUcKAcKHAcGAcGGAcGHAcNGAcCAcCHAcJAcJJAcJHAcNYAcTTA",
    "cTTHAcDDAcDDDAcRRAcDDHAcNNAcTAcTHAcDAcDHAcNAcPAcPHAcBAcBBAcBHAcMAcYAcRAcLAcVAcSHAcSAcHA",
    "bSIGN ANUSVARAbVOWEL SIGN AAdIdIIdUdUUdEdAIdOdAUbSIGN NUKTAcVIRAMA"]⟩,
  ⟨0x112F0, [
    "aKHUDAWADI DIGIT ZEROcONEcTWOcTHREEcFOURcFIVEcSIXcSEVENcEIGHTcNINE"]⟩,
  ⟨0x11300, [
    "aGRANTHA SIGN COMBINING ANUSVARA ABOVEcCANDRABINDUcANUSVARAcVISARGA_bLETTER AcAAcIcIIcUcUU",
    "cVOCALIC RdL__cEEcAI__cOOcAUcKAcKHAcGAcGHAcNGAcCAcCHAcJAcJHAcNYAcTTAcTTHAcDDAcDDHAcNNAcTA",
    "cTHAcDAcDHAcNA_cPAcPHAcBAcBHAcMAcYAcRA_cLAcLLA_cVAcSHAcSSAcSAcHA_aCOMBINING BINDU BELOW",
    "aGRANTHA SIGN NUKTAcAVAGRAHAbVOWEL SIGN AAdIdIIdUdUUdVOCALIC ReRR__dEEdAI__dOOdAU",
    "bSIGN VIRAMA__bOM"]⟩,
  ⟨0x11357, [
    "aGRANTHA AU LENGTH MARK"]⟩,
  ⟨0x1135D, [
    "aGRANTHA SIGN PLUTAbLETTER VEDIC ANUSVARAdDOUBLEncVOCALIC RRdLLbVOWEL SIGN VOCALIC LeLL__",
    "aCOMBINING GRANTHA DIGIT ZEROdONEdTWOdTHREEdFOURdFIVEdSIX___cLETTER AdKAdNAdVIdPA"]⟩,
  ⟨0x11400, [
    "aNEWA LETTER AcAAcIcIIcUcUUcVOCALIC RdRRdLdLLcEcAIcOcAUcKAcKHAcGAcGHAcNGAcNGHAcCAcCHAcJAcJHA",
    "cNYAcNYHAcTTAcTTHAcDDAcDDHAcNNAcTAcTHAcDAcDHAcNAcNHAcPAcPHAcBAcBHAcMAcMHAcYAcRAcRHAcLAcLHA",
    "cWAcSHAcSSAcSAcHAbVOWEL SIGN AAdIdIIdUdUUdVOCALIC ReRReLeLLdEdAIdOdAUbSIGN VIRAMA",
    "cCANDRABINDUcANUSVARAcVISARGAcNUKTAcAVAGRAHAcFINAL ANUSVARAbOMbSIDDHIbDANDAbDOUBLEnbCOMMA",
    "bGAP FILLERbABBREVIATION SIGNbDIGIT ZEROcONEcTWOcTHREEcFOURcFIVEcSIXcSEVENcEIGHTcNINE",
    "bDOUBLE COMMAbPLACEHOLDER MARK_bINSERTION SIGNbSANDHI MARKbLETTER VEDIC ANUSVARA",
    "bSIGN JIHVAMULIYAcUPADHMANIYA"]⟩,
  ⟨0x11480, [
    "aTIRHUTA ANJIbLETTER AcAAcIcIIcUcUUcVOCALIC RdRRdLdLLcEcAIcOcAUcKAcKHAcGAcGHAcNGAcCAcCHAcJA",
    "cJHAcNYAcTTAcTTHAcDDAcDDHAcNNAcTAcTHAcDAcDHAcNAcPAcPHAcBAcBHAcMAcYAcRAcLAcVAcSHAcSSAcSAcHA",
    "bVOWEL SIGN AAdIdIIdUdUUdVOCALIC ReRReLeLLdEdSHORTndAIdOdSHORTndAUbSIGN CANDRABINDUcANUSVARA",
    "cVISARGAcVIRAMAcNUKTAcAVAGRAHAbGVANGbABBREVIATION SIGNbOM"]⟩,
  ⟨0x114D0, [
    "aTIRHUTA DIGIT ZEROcONEcTWOcTHREEcFOURcFIVEcSIXcSEVENcEIGHTcNINE"]⟩,
  ⟨0x11580, [
    "aSIDDHAM LETTER AcAAcIcIIcUcUUcVOCALIC RdRRdLdLLcEcAIcOcAUcKAcKHAcGAcGHAcNGAcCAcCHAcJAcJHA",
    "cNYAcTTAcTTHAcDDAcDDHAcNNAcTAcTHAcDAcDHAcNAcPAcPHAcBAcBHAcMAcYAcRAcLAcVAcSHAcSSAcSAcHA",
    "bVOWEL SIGN AAdIdIIdUdUUdVOCALIC ReRR__dEdAIdOdAUbSIGN CANDRABINDUcANUSVARAcVISARGAcVIRAMA",
    "cNUKTAcSIDDHAMbDANDAbDOUBLEnbSEPARATOR DOTcBARbREPETITION MARK-1++bEND OF TEXT MARK",
    "bSECTION MARK WITH TRIDENT AND U-SHAPED ORNAMENTSgDOTTED CRESCENTSeRAYSphDOUBLEnhTRIPLEn",
    "dDOUBLE RINGfWITH RAYSdWITH DOUBLE CRESCENTSeTRIPLEneQUADRUPLEneSEPTUPLEneCIRCLES AND RAYS",
    "gTWO ENCLOSURESgFOURnbLETTER THREE-CIRCLE ALTERNATE IcTWO-CIRCLEoeIIcALTERNATE UbVOWEL SIGNo",
    "eUU"]⟩,
  ⟨0x11600, [
    "aMODI LETTER AcAAcIcIIcUcUUcVOCALIC RdRRdLdLLcEcAIcOcAUcKAcKHAcGAcGHAcNGAcCAcCHAcJAcJHAcNYA",
    "cTTAcTTHAcDDAcDDHAcNNAcTAcTHAcDAcDHAcNAcPAcPHAcBAcBHAcMAcYAcRAcLAcVAcSHAcSSAcSAcHAcLLA",
    "bVOWEL SIGN AAdIdIIdUdUUdVOCALIC ReRReLeLLdEdAIdOdAUbSIGN ANUSVARAcVISARGAcVIRAMA",
    "cARDHACANDRAbDANDAbDOUBLEnbABBREVIATION SIGNbSIGN HUVA"]⟩,
  ⟨0x11650, [
    "aMODI DIGIT ZEROcONEcTWOcTHREEcFOURcFIVEcSIXcSEVENcEIGHTcNINE"]⟩,
  ⟨0x11660, [
    "aMONGOLIAN BIRGA WITH ORNAMENTbROTATED BIRGAbDOUBLE BIRGA WITH ORNAMENTbTRIPLEp",
    "bBIRGA WITH DOUBLEnbROTATED BIRGA WITHneDOUBLEnbINVERTED BIRGAdWITH DOUBLE ORNAMENT",
    "bSWIRL BIRGAdWITH ORNAMENTeDOUBLEnbTURNEDr"]⟩,
  ⟨0x11680, [
    "aTAKRI LETTER AcAAcIcIIcUcUUcEcAIcOcAUcKAcKHAcGAcGHAcNGAcCAcCHAcJAcJHAcNYAcTTAcTTHAcDDAcDDHA",
    "cNNAcTAcTHAcDAcDHAcNAcPAcPHAcBAcBHAcMAcYAcRAcLAcVAcSHAcSAcHAcRRAbSIGN ANUSVARAcVISARGA",
    "bVOWEL SIGN AAdIdIIdUdUUdEdAIdOdAUbSIGN VIRAMAcNUKTAbLETTER ARCHAIC KHAbABBREVIATION SIGN"]⟩,
  ⟨0x116C0, [
    "aTAKRI DIGIT ZEROcONEcTWOcTHREEcFOURcFIVEcSIXcSEVENcEIGHTcNINE"]⟩,
  ⟨0x11700, [
    "aAHOM LETTER KAcKHAcNGAcNAcTAcALTERNATEncPAcPHAcBAcMAcJAcCHAcTHAcRAcLAcSAcNYAcHAcAcDAcDHAcGA",
    "cALTERNATEncGHAcBHAcJHAcALTERNATE BA__bCONSONANT SIGN MEDIAL LAeRAeLIGATINGnbVOWEL SIGN AdAA",
    "dIdIIdUdUUdEdAWdOdAIdAMbSIGN KILLER"]⟩,
  ⟨0x11730, [
    "aAHOM DIGIT ZEROcONEcTWOcTHREEcFOURcFIVEcSIXcSEVENcEIGHTcNINEbNUMBER TENcTWENTY",
    "bSIGN SMALL SECTIONcncRULAIbSYMBOL VIbLETTER CAcTTAcTTHAcDDAcDDHAcNNAcLLA"]⟩,
  ⟨0x11800, [
    "aDOGRA LETTER AcAAcIcIIcUcUUcEcAIcOcAUcKAcKHAcGAcGHAcNGAcCAcCHAcJAcJHAcNYAcTTAcTTHAcDDAcDDHA",
    "cNNAcTAcTHAcDAcDHAcNAcPAcPHAcBAcBHAcMAcYAcRAcLAcVAcSHAcSSAcSAcHAcRRAbVOWEL SIGN AAdIdIIdUdUU",
    "dVOCALIC ReRRdEdAIdOdAUbSIGN ANUSVARAcVISARGAcVIRAMAcNUKTAbABBREVIATION SIGN"]⟩,
  ⟨0x118A0, [
    "aWARANG CITI CAPITAL LETTER NGAAeAeWIeYUeYAeYOeIIeUUeEeOeANGeGAeKOeENYeYUJeUCeENNeODDeTTE",
    "eNUNGeDAeATeAMeBUePUeHIYOeHOLOeHORReHAReSSUUeSIIeVIYOcSMALL LETTER NGAAeAeWIeYUeYAeYOeIIeUU",
    "eEeOeANGeGAeKOeENYeYUJeUCeENNeODDeTTEeNUNGeDAeATeAMeBUePUeHIYOeHOLOeHORReHAReSSUUeSIIeVIYO",
    "cDIGIT ZEROdONEdTWOdTHREEdFOURdFIVEdSIXdSEVENdEIGHTdNINEcNUMBER TENdTWENTYdTHIRTYdFORTY",
    "dFIFTYdSIXTYdSEVENTYdEIGHTYdNINETY"]⟩,
  ⟨0x118FF, [
    "aWARANG CITI OMaDIVES AKURU LETTER AdAAdIdIIdUdUUdE__dO__dKAdKHAdGAdGHAdNGAdCAdCHAdJA_dNYA",
    "dTTA_dDDAdDDHAdNNAdTAdTHAdDAdDHAdNAdPAdPHAdBAdBHAdMAdYAdYYAdRAdLAdVAdSHAdSSAdSAdHAdLLAdZA",
    "cVOWEL SIGN AAeIeIIeUeUUeE_eAIeO__cSIGN ANUSVARAdCANDRABINDUdHALANTAcVIRAMA",
    "cPREFIXED NASAL SIGNcMEDIAL YAcINITIAL RAcMEDIALncSIGN NUKTAcDOUBLE DANDAcGAP FILLER",
    "cEND OF TEXT MARK"]⟩,
  ⟨0x11950, [
    "aDIVES AKURU DIGIT ZEROdONEdTWOdTHREEdFOURdFIVEdSIXdSEVENdEIGHTdNINE"]⟩,
  ⟨0x119A0, [
    "aNANDINAGARI LETTER AcAAcIcIIcUcUUcVOCALIC RdRR__cEcAIcOcAUcKAcKHAcGAcGHAcNGAcCAcCHAcJAcJHA",
    "cNYAcTTAcTTHAcDDAcDDHAcNNAcTAcTHAcDAcDHAcNAcPAcPHAcBAcBHAcMAcYAcRAcLAcVAcSHAcSSAcSAcHAcLLA",
    "cRRAbVOWEL SIGN AAdIdIIdUdUUdVOCALIC ReRR__dEdAIdOdAUbSIGN ANUSVARAcVISARGAcVIRAMAcAVAGRAHA",
    "cSIDDHAMbHEADSTROKEbVOWEL SIGN PRISHTHAMATRA E"]⟩,
  ⟨0x11A00, [
    "aZANABAZAR SQUARE LETTER AcVOWEL SIGN IeUEeUeEeOEeOeAIeAUeREVERSED IdLENGTH MARKcLETTER KA",
    "dKHAdGAdGHAdNGAdCAdCHAdJAdNYAdTTAdTTHAdDDAdDDHAdNNAdTAdTHAdDAdDHAdNAdPAdPHAdBAdBHAdMAdTSA",
    "dTSHAdDZAdDZHAdZHAdZAd-AdYAdRAdLAdVAdSHAdSSAdSAdHAdKSSAcFINAL CONSONANT MARKcSIGN VIRAMA",
    "dCANDRABINDUeWITH ORNAMENTdCANDRAodANUSVARAdVISARGAcCLUSTER-INITIAL LETTER RA",
    "cCLUSTER-FINAL LETTER YAeRAeLAeVAcINITIAL HEAD MARKcCLOSINGocMARK TSHEGdSHADdDOUBLEn",
    "dLONG TSHEGcINITIAL DOUBLE-LINED HEAD MARKcCLOSINGpcSUBJOINER"]⟩,
  ⟨0x11A50, [
    "aSOYOMBO LETTER AbVOWEL SIGN IdUEdUdEdOdOEdAIdAUdVOCALIC ReLcLENGTH MARKbLETTER KAcKHAcGA",
    "cGHAcNGAcCAcCHAcJAcJHAcNYAcTTAcTTHAcDDAcDDHAcNNAcTAcTHAcDAcDHAcNAcPAcPHAcBAcBHAcMAcTSAcTSHA",
    "cDZAcZHAcZAc-AcYAcRAcLAcVAcSHAcSSAcSAcHAcKSSAbSIGN JIHVAMULIYAcUPADHMANIYA",
    "bCLUSTER-INITIAL LETTER RAdLAdSHAdSAbFINAL CONSONANT SIGN GeKeNGeDeNeBeMeReLeSHeSe-A",
    "bSIGN ANUSVARAcVISARGAbGEMINATION MARKbSUBJOINERbMARK TSHEGcSHADcDOUBLEncPLUTA",
    "bHEAD MARK WITH MOON AND SUN AND TRIPLE FLAMEinhbTERMINAL MARK-1+"]⟩,
  ⟨0x11AB0, [
    "aCANADIAN SYLLABICS NATTILIK HIdHIIdHOdHOOdHAdHAAdSHRIdSHRIIdSHROdSHROOdSHRAdSHRAAcSPEcSPI",
    "cSPOcSPAaPAU CIN HAU LETTER PAeKAeLAeMAeDAeZAeVAeNGAeHAeGAeKHAeSAeBAeCAeTAeTHAeNAePHAeRAeFA",
    "eCHAeAeEeIeOeUeUAeIAeFINAL PfKfTfMfNfLfWfNGfYdRISING TONE LONGfdSANDHI GLOTTAL STOP",
    "dRISING TONE LONG FINALfndSANDHI GLOTTAL STOPneTONE LONGffLONG FINALfndMID-LEVEL TONE",
    "dGLOTTAL STOP VARIANTdMID-LEVEL TONE LONG FINALfndLOW-FALLING TONE LONGfdGLOTTAL STOP",
    "dLOW-FALLING TONE LONG FINALfndGLOTTAL STOPn"]⟩,
  ⟨0x11C00, [
    "aBHAIKSUKI LETTER AcAAcIcIIcUcUUcVOCALIC RdRRdL_cEcAIcOcAUcKAcKHAcGAcGHAcNGAcCAcCHAcJAcJHA",
    "cNYAcTTAcTTHAcDDAcDDHAcNNAcTAcTHAcDAcDHAcNAcPAcPHAcBAcBHAcMAcYAcRAcLAcVAcSHAcSSAcSAcHA",
    "bVOWEL SIGN AAdIdIIdUdUUdVOCALIC ReRReL_dEdAIdOdAUbSIGN CANDRABINDUcANUSVARAcVISARGAcVIRAMA",
    "cAVAGRAHAbDANDAbDOUBLEnbWORD SEPARATORbGAP FILLER-1+"]⟩,
  ⟨0x11C50, [
    "aBHAIKSUKI DIGIT ZEROcONEcTWOcTHREEcFOURcFIVEcSIXcSEVENcEIGHTcNINEbNUMBER ONEcTWOcTHREEcFOUR",
    "cFIVEcSIXcSEVENcEIGHTcNINEcTENcTWENTYcTHIRTYcFORTYcFIFTYcSIXTYcSEVENTYcEIGHTYcNINETY",
    "bHUNDREDS UNIT MARK___aMARCHEN HEADnbMARK SHADbLETTER KAcKHAcGAcNGAcCAcCHAcJAcNYAcTAcTHAcDA",
    "cNAcPAcPHAcBAcMAcTSAcTSHAcDZAcWAcZHAcZAc-AcYAcRAcLAcSHAcSAcHAcA__bSUBJOINED LETTER KAdKHAdGA",
    "dNGAdCAdCHAdJAdNYAdTAdTHAdDAdNAdPAdPHAdBAdMAdTSAdTSHAdDZAdWAdZHAdZA_dYAdRAdLAdSHAdSAdHAdA",
    "bVOWEL SIGN AAdIdUdEdObSIGN ANUSVARAcCANDRABINDU"]⟩,
  ⟨0x11D00, [
    "aMASARAM GONDI LETTER AdAAdIdIIdUdUUdE_dAIdO_dAUdKAdKHAdGAdGHAdNGAdCAdCHAdJAdJHAdNYAdTTA",
    "dTTHAdDDAdDDHAdNNAdTAdTHAdDAdDHAdNAdPAdPHAdBAdBHAdMAdYAdRAdLAdVAdSHAdSSAdSAdHAdLLAdKSSAdJNYA",
    "dTRAcVOWEL SIGN AAeIeIIeUeUUeVOCALIC R___eE_eAIeO_eAUcSIGN ANUSVARAdVISARGAdNUKTAdCANDRA",
    "dHALANTAcVIRAMAcREPHAcRA-KARA"]⟩,
  ⟨0x11D50, [
    "aMASARAM GONDI DIGIT ZEROdONEdTWOdTHREEdFOURdFIVEdSIXdSEVENdEIGHTdNINE"]⟩,
  ⟨0x11D60, [
    "aGUNJALA GONDI LETTER AdAAdIdIIdUdUU_dEEdAI_dOOdAUdYAdVAdBAdBHAdMAdKAdKHAdTAdTHAdLAdGAdGHA",
    "dDAdDHAdNAdCAdCHAdTTAdTTHAdLLAdJAdJHAdDDAdDDHAdNGAdPAdPHAdHAdRAdSAcVOWEL SIGN AAeIeIIeUeUU_",
    "eEEeAI_eOOeAUcSIGN ANUSVARAdVISARGAcVIRAMAcOM"]⟩,
  ⟨0x11DA0, [
    "aGUNJALA GONDI DIGIT ZEROdONEdTWOdTHREEdFOURdFIVEdSIXdSEVENdEIGHTdNINE"]⟩,
  ⟨0x11EE0, [
    "aMAKASAR LETTER KAcGAcNGAcPAcBAcMAcTAcDAcNAcCAcJAcNYAcYAcRAcLAcVAcSAcAbANGKAbVOWEL SIGN IdU",
    "dEdObPASSIMBANGbEND OF SECTION"]⟩,
  ⟨0x11FB0, [
    "aLISU LETTER YHA"]⟩,
  ⟨0x11FC0, [
    "aTAMIL FRACTION ONE THREE-HUNDRED-AND-TWENTIETHdONE-HUNDRED-AND-SIXTIETHdEIGHTIETH",
    "dSIXTY-FOURTHdFORTIETHdTHIRTY-SECONDcTHREE EIGHTIETHSdSIXTY-FOURTHScONE TWENTIETH",
    "dSIXTEENTH-1+dTENTHdEIGHTHcTHREE TWENTIETHSdSIXTEENTHScONE FIFTHdQUARTERdHALF-1+",
    "cTHREE QUARTERScDOWNSCALING FACTOR KIIZHbSIGN NELcCEVITUcAAZHAAKKUcUZHAKKUcMUUVUZHAKKU",
    "cKURUNIcPATHAKKUcMUKKURUNIcKAACUcPANAMcPONcVARAAKANcPAARAMcKUZHIcVELIbWET CULTIVATION SIGN",
    "bDRYobLANDnbSALT PANnbTRADITIONAL CREDITncNUMBERnbCURRENTnbAND ODDnbSPENTnbTOTALn",
    "bIN POSSESSIONnbSTARTING FROMnbSIGN MUTHALIYAcVAKAIYARAA"]⟩,
  ⟨0x11FFF, [
    "aTAMIL PUNCTUATION END OF TEXTaCUNEIFORM SIGN AdTIMES AeBADeGAN2 TENUeHAeIGIeLAGAR GUNUeMUSH",
    "eSAGcA2cABdTIMES ASH2eDUN3 GUNUeGALeGAN2 TENUeHAeIGI GUNUeIMINeLAGABeSHESHeU PLUS U PLUS U",
    "dGUNUcAB2dTIMES BALAGeGAN2 TENUeME PLUS ENeSHA3eTAK4cADcAKdTIMES ERIN2eSHITA PLUS GISHcAL",
    "dTIMES ALeDIM2eGISHeHAeKAD3eKIeSHEeUSHcALANcALEPHcAMARdTIMES SHEcANdOVER ANdTHREE TIMES",
    "dPLUS NAGA OPPOSING AN PLUS NAGAfSQUAREDcANSHEcAPINcARADdTIMES KURcARKABcASAL2cASHdZIDA TENU",
    "dKABAndOVER ASH TUG2 OVER TUG2 TUG2 OVER TUG2 PAPfOVER ASHhCROSSING ASH OVER ASH OVER ASH",
    "cASH2cASHGABcBAcBADcBAG3cBAHAR2cBALdOVER BALcBALAGcBARcBARA2cBIdTIMES AeGAReIGI GUNUcBU",
    "dOVER BU ABfUNdCROSSING BUcBULUGdOVER BULUGcBURcBUR2cDAcDAGdKISIM5 TIMES A PLUS MASHfAMAR",
    "fBALAGfBIfGAgPLUS MASHfGIfGIR2fGUDfHAfIRgPLUS LUfKAKfLAfLUgPLUS MASH2fLUMfNEfPAP PLUS PAPfSI",
    "fTAK4fU2 PLUS GIR2fUSHcDAMcDARcDARA3+cDIcDIBcDIMdTIMES SHEcDIM2cDINdKASKAL U GUNU DISHcncDU",
    "dOVER DUdGUNUdSHESHIGcDUBdTIMES ESH2cDUB2cDUGcDUGUDcDUHcDUNcDUN3dGUNUeGUNUcDUN4cDUR2cE",
    "dTIMES PAPdOVER E NUN OVER NUNcE2dTIMES A PLUS HA PLUS DAeGAReMIeSALeSHEeUcEDINcEGIRcELcEN",
    "dTIMES GAN2fTENUeMEdCROSSING ENdOPPOSINGndSQUAREDcERENcERIN2cESH2cEZENdTIMES AfPLUS LAL",
    "hTIMES LALeANeBADeDUN3 GUNUgGUNUeHAfGUNUeIGIneKASKALfSQUAREDeKU3eLAeLAL TIMES LALeLIeLUeU2",
    "eUDcGAdGUNUcGA2dTIMES A PLUS DA PLUS HAgngIGIeAB2 TENU PLUS TABeANeASHeASH2 PLUS GALeBAD",
    "eBAR PLUS RAeBURfPLUS RAeDAeDIeDIM TIMES SHEeDUBeELfPLUS LAeENfTIMES GAN2 TENUeoeGAReGIeGI4",
    "fPLUS AeGIR2 PLUS SUeHA PLUS LU PLUS ESH2eHALfPLUS LAeHI PLUS LIeHUB2eIGI GUNU",
    "eISH PLUS HU PLUS ASHeKAKeKASKALeKIDfPLUS LALeKU3 PLUS ANeLAeME PLUS ENeMIeNUNfOVER NUNePA",
    "eSALeSAReSHEfPLUS TUReSHIDeSUMeTAK4eUeUDfPLUS DUdOVER GA2cGABAdCROSSING GABAcGAD",
    "dOVER GAD GAR OVER GARcGALdGAD OVER GAD GAR OVER GARcGALAMcGAMcGANcGAN2dTENUdOVER GAN2",
    "dCROSSINGncGARcGAR3cGASHANcGESHTINdTIMES KURcGIdTIMES EeUdCROSSING GIcGI4dOVER GI4dCROSSINGn",
    "cGIDIMcGIR2dGUNUcGIR3dTIMES A PLUS IGIeGAN2 TENUeIGIeLU PLUSnePAcGISALcGISHdCROSSING GISH",
    "dTIMES BADeTAK4dTENUcGUdCROSSING GUcGU2dTIMES KAKfTIMES IGI GUNUeNUNeSAL PLUS TUG2dGUNUcGUD",
    "dTIMES A PLUS KURendOVER GUD LUGALcGULcGUMdTIMES SHEcGURcGUR7cGURUNcGURUSHcHAdTENUdGUNUcHAL",
    "cHIdTIMES ASHeASH2eBADeDISHeGADeKINeNUNeSHEeUcHUcHUB2dTIMES ANeHALeKASKALeLISHeUDcHUL2cIdA",
    "cIBcIDIMdOVER IDIM BURfSQUAREDcIGcIGIdDIBdRIdOVER IGI SHIR OVER SHIR UD OVER UDdGUNUcIL",
    "dTIMES GAN2 TENUcIL2cIMdTIMES TAK4dCROSSING IMdOPPOSINGndSQUAREDcIMINcINcIRcISHcKAdTIMES A",
    "eADfPLUS KU3eASH2eBADeBALAGeBAReBIeERIN2eESH2eGAeGALeGAN2 TENUeGARfPLUS SHA3 PLUS AeGIeGIR2",
    "eGISH PLUS SARfCROSSING GISHeGUeGUR7eIGIeIMeKAKeKIeKIDeLIeLUeMEfPLUS DUgGIgTEeMIfPLUS NUNUZ",
    "eNEeNUNePIeRUeSAeSAReSHAeSHEeSHIDeSHUeSIGeSUHUReTAReUeU2eUDeUMUM TIMES PAeUSHeZIcKA2",
    "dCROSSING KA2cKABcKAD2+++dOVER KAD5cKAKdTIMES IGI GUNUcKALdTIMES BADdCROSSING KALcKAM2cKAM4",
    "cKASKALdLAGAB TIMES U OVER LAGAB TIMES UdOVER KASKALtcKESH2cKIdTIMES BADeUeUDcKIDcKINcKISAL",
    "cKISHcKISIM5dOVER KISIM5cKUdOVER HI TIMES ASH2 KU OVER HI TIMES ASH2cKU3+dVARIANT FORMcKU7",
    "cKULdGUNUcKUNcKURdOPPOSING KURcKUSHU2cKWU318cLAcLAGABdTIMES AfPLUS DA PLUS HAgGARgLALeALeAN",
    "eASH ZIDA TENUeBADeBIeDAReENeGAeGAReGUDfPLUS GUDeHAeHALeHI TIMES NUNeIGI GUNUeIMfPLUS HAgLU",
    "eKIeKINeKU3eKULfPLUS HI PLUS AeLAGABeLISHeLUeLULeMEfPLUS ENeMUSHeNEeSHE PLUS SUM",
    "eSHITA PLUS GISH PLUS ERIN2hTENUeSHU2fPLUS SHU2eSUMeTAGeTAK4eTE PLUS A PLUS SU PLUS NAeU",
    "fPLUS AgU PLUS UeU2 PLUS ASHeUDeUSHdSQUAREDcLAGARdTIMES SHEfPLUS SUMdGUNU",
    "eOVER LAGAR GUNU SHEcLAHSHUcLALdTIMES LALcLAMdTIMES KURfPLUS RUcLIcLILcLIMMU2cLISHcLU",
    "dTIMES BADcLU2dTIMES ALeBADeESH2fTENUeGAN2neHI TIMES BADeIMeKAD2+fPLUS ASHeKIeLA PLUS ASH",
    "eLAGABeME PLUS ENeNEeNUeSI PLUS ASHeSIK2 PLUS BUeTUG2dTENUdCROSSING LU2dOPPOSINGndSQUARED",
    "dSHESHIGcLU3cLUGALdOVER LUGALdOPPOSINGndSHESHIGcLUHcLULcLUMdOVER LUMfGAR OVER GARcMA",
    "dTIMES TAK4dGUNUcMA2cMAHcMARcMASHcMASH2cMEcMEScMIcMINcMUdOVER MUcMUGdGUNUcMUNSUBcMURGU2cMUSH",
    "dTIMES AeKUReZAdOVER MUSHfTIMES A PLUS NAdCROSSING MUSHcMUSH3dTIMES AfPLUS DIendGUNUcNAcNA2",
    "cNAGAdINVERTEDdTIMES SHU TENUdOPPOSING NAGAcNAGARcNAM NUTILLUdcNAM2cNEdTIMES AeUDdSHESHIGcNI",
    "dTIMES EcNI2cNIMdTIMES GAN2 TENUeGAR PLUSocNINDA2dTIMES ANeASHfPLUS ASHeGUD",
    "eME PLUS GAN2 TENUeNEeNUNeSHEfPLUS A ANgASHhPLUS ASHeU2oeUSHcNISAGcNUcNU11cNUN",
    "dLAGAR TIMES GARfMASHfSALgOVER NUN LAGAR TIMES SALfUSHdTENUdOVER NUNdCROSSINGn",
    "fLAGAR OVER LAGARcNUNUZdAB2 TIMES ASHGABfBIfDUGfGUDfIGI GUNUfKAD3fLAfNEfSILA3fU2",
    "dKISIM5 TIMES BIgUcPAcPADcPANcPAPcPESH2cPIdTIMES AeABeBIeBUeEeIeIBeUeU2dCROSSING PIcPIRIG",
    "dTIMES KALeUDeZAdOPPOSING PIRIGcRAcRABcRIcRUcSAcSAG NUTILLUddTIMES AeDUeDUBeHAeKAKeKUReLUM",
    "eMIeNUNeSALeSHIDeTABeU2eUBeUMeUReUSHdOVER SAGdGUNUcSALdLAGAB TIMES ASH2cSANGA2cSARcSHAcSHA3",
    "dTIMES AeBADeGISHeNEeSHU2eTUReUfPLUS AcSHA6cSHAB6cSHAR2cSHEdHU",
    "dOVER SHE GAD OVER GAD GAR OVER GARfTAB OVER TABpcSHEG9cSHENcSHESHcSHESH2cSHESHLAMcSHID",
    "dTIMES AeIMcSHIMdTIMES AeBALeBULUGeDINeGAReIGIfGUNUeKUSHU2eLULeMUGeSALcSHINIGcSHIRdTENU",
    "dOVER SHIR BUR OVER BURcSHITAcSHUdOVER INVERTED SHUcSHU2cSHUBURcSIdGUNUcSIGcSIG4",
    "dOVER SIG4 SHU2cSIK2cSILA3cSUdOVER SUcSUDcSUD2cSUHURcSUMcSUMASHcSURcSUR9cTAdASTERISK",
    "dTIMES HIeMIdGUNUcTABdOVER TAB NI OVER NI DISH OVER DISHdSQUAREDcTAGdTIMES BIeGUDeSHEeSHU",
    "eTUG2eUDcTAK4cTARcTEdGUNUcTIdTENUcTILcTIRdTIMES TAK4dOVER TIRfGAD OVER GAD GAR OVER GARcTU",
    "cTUG2cTUKcTUMcTURdOVER TUR ZA OVER ZAcUdGUDdU UdOVER U PA OVER PA GAR OVER GARfSUR OVER SUR",
    "fU REVERSED OVER U REVERSEDcU2cUBcUDdKUSHU2dTIMES BADeMIeU PLUS U PLUS UjGUNUdndSHESHIG",
    "eTIMES BADcUDUGcUMdTIMES LAGABeME PLUS DAeSHA3eUcUMBINcUMUMdTIMES KASKALePAcUNdGUNUcUR",
    "dCROSSING URdSHESHIGcUR2dTIMES A PLUS HAgNAeALeHAeNUNeU2fPLUS ASHgBIcUR4cURIcURI3cURU",
    "dTIMES AeASHGABeBAReDUNeGAeGALeGAN2 TENUeGAReGUeHAeIGIeIMeISHeKIeLUMeMINePAeSHEeSIG4eTU",
    "eU PLUS GUDeUDeURUDAcndTIMES UcUSHdTIMES AeKUeKUReTAK4cUSHXcUSH2cUSHUMXcUTUKIcUZ3",
    "dTIMES KASKALcUZUcZAdTENUdSQUARED TIMES KURcZAGcZAMXcZE2cZIdOVER ZIcZI3cZIBdKABA TENUcZIG",
    "cZIZ2cZUcZU5dTIMES AcZUBURcZUMcKAP ELAMITEcAB TIMES NUNcAB2 TIMES AcAMAR TIMES KUG",
    "cDAG KISIM5 TIMES U2 PLUS MASHcDAG3cDISH PLUS SHUcDUB TIMES SHEcEZEN TIMES GUDeSHE",
    "cGA2 TIMES AN PLUS KAK PLUS AeASH2cGE22cGIGcHUSHcKA TIMES ANSHEeASH3eGISHeGUDeHI TIMES ASH2",
    "eLUMePAeSHULeTUeUR2cLAGAB TIMES GIcLU2 SHESHIG TIMES BADdTIMES ESH2 PLUS LALeSHUcMESH",
    "cMUSH3 TIMES ZAcNA4cNINcNIN9cNINDA2 TIMES BALeGIcNU11 ROTATED NINETY DEGREEScPESH2 ASTERISK",
    "cPIR2cSAG TIMES IGI GUNUcTI2cUM TIMES MEcU U"]⟩]

end FormDialogue.Unicode
